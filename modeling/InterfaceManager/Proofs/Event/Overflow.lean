import InterfaceManager.Proofs.Event

/-!
# When the reading of an event stops

A time is read as a natural of 64 bits, but the clock has only 63 bits for
the seconds after the epoch.  A later time is not reported as a misfit: the
reading stops.  `Overruns` says which values these are.  Every other value
gives an event or a misfit.
-/

namespace InterfaceManager

namespace Json

/-- What does not stop: whatever does not fit is reported. -/
def Steady (r : Except Misfit α) : Prop :=
  ∀ message, r ≠ .error (.overflow message)

theorem Steady.bind {r : Except Misfit α} {f : α → Except Misfit β}
    (first : Steady r) (next : ∀ a, Steady (f a)) : Steady (r >>= f) := by
  intro message stops
  rcases bind_eq_error_iff.mp stops with stops | ⟨a, -, stops⟩
  · exact first message stops
  · exact next a message stops

theorem Steady.ok (a : α) : Steady (.ok a) := nofun

theorem Steady.map {r : Except Misfit α} (steady : Steady r) (f : α → β) :
    Steady (r.map f) := by
  cases r with
  | ok a => exact nofun
  | error misfit =>
    intro message stops
    exact steady message (by simpa [Except.map] using stops)

theorem asText_steady (v : Json) : Steady (asText v) := by
  intro message stops
  rw [asText.eq_def] at stops
  split at stops <;> cases stops

theorem asFlag_steady (v : Json) : Steady (asFlag v) := by
  intro message stops
  rw [asFlag.eq_def] at stops
  split at stops <;> cases stops

theorem asNatBelow_steady (bound : Nat) (expected : String) (v : Json) :
    Steady (asNatBelow bound expected v) := by
  intro message stops
  rw [asNatBelow.eq_def] at stops
  split at stops
  · split at stops <;> cases stops
  · cases stops
  · cases stops

theorem asUInt32_steady (v : Json) : Steady (asUInt32 v) :=
  (asNatBelow_steady _ _ v).map _

theorem Fields.required_steady {read : Reading α}
    (steady : ∀ v, Steady (read v)) (shape : RecordShape) (key : String)
    (fields : Fields) : Steady (fields.required shape key read) := by
  cases fields with
  | named ms =>
    rw [Fields.required]
    split
    · exact steady _
    · intro message same
      cases same
  | listed items =>
    simp only [Fields.required]
    split
    · exact steady _
    · intro message same
      cases same

theorem asText_ok_iff {v : Json} :
    (∃ s, asText v = .ok s) ↔ ∃ s, v = .string s := by
  cases v <;> simp [asText]

theorem asFlag_ok_iff {v : Json} :
    (∃ b, asFlag v = .ok b) ↔ ∃ b, v = .bool b := by
  cases v <;> simp [asFlag]

theorem asNatBelow_ok_iff {bound : Nat} {expected : String} {v : Json} :
    (∃ n, asNatBelow bound expected v = .ok n) ↔
      ∃ n : UInt64, v = .number (.natural n) ∧ n.toNat < bound := by
  cases v with
  | number n =>
    cases n with
    | natural n => by_cases small : n.toNat < bound <;> simp [asNatBelow, small]
    | negative => simp [asNatBelow]
    | fractional => simp [asNatBelow]
  | _ => simp [asNatBelow]

theorem map_ok_iff {r : Except Misfit α} {f : α → β} :
    (∃ b, r.map f = .ok b) ↔ ∃ a, r = .ok a := by
  cases r <;> simp [Except.map]

theorem asUInt32_ok_iff {v : Json} :
    (∃ n, asUInt32 v = .ok n) ↔
      ∃ n : UInt64, v = .number (.natural n) ∧ n.toNat < 2 ^ 32 :=
  map_ok_iff.trans asNatBelow_ok_iff

theorem ifIndex_steady (v : Json) : Steady (IfIndex.ofJson v) :=
  (asUInt32_steady v).map _

theorem ifIndex_ok_iff {v : Json} :
    (∃ i, IfIndex.ofJson v = .ok i) ↔
      ∃ n : UInt64, v = .number (.natural n) ∧ n.toNat < 2 ^ 32 :=
  map_ok_iff.trans asUInt32_ok_iff

theorem fits_ok_iff {read : Reading α} {v : Json} :
    fits read v = .ok () ↔ ∃ a, read v = .ok a := by
  rw [fits]
  cases read v <;> simp [Except.map]

theorem Fields.required_listed_ok_iff {shape : RecordShape} {key : String}
    {read : Reading α} {items : List Json} :
    (∃ a, Fields.required shape key read (.listed items) = .ok a) ↔
      ∃ v, items[shape.names.idxOf key]? = some v ∧ ∃ a, read v = .ok a := by
  rcases found : items[shape.names.idxOf key]? with _ | v <;>
    simp [Fields.required, found]

end Json

namespace Event

open Json

/-- A number of seconds beyond the clock. -/
def Late (v : Json) : Prop :=
  ∃ n : UInt64, v = .number (.natural n) ∧ 2 ^ 63 ≤ n.toNat

theorem asTime_natural (n : UInt64) :
    asTime (.number (.natural n)) =
      if n.toNat < 2 ^ 63 then .ok ⟨n.toNat, 0⟩
      else .error (.overflow Timestamp.Unreachable.after.message) := by
  have small : n.toNat < UInt64.size := n.toNat_lt
  have carries : Timestamp.carried n.toNat 0 = .ok (n.toNat, 0) := by
    simp [Timestamp.carried, small, Timestamp.second]
  have range : Timestamp.InRange n.toNat ↔ n.toNat < 2 ^ 63 := by
    have most : Int64.maxValue.toInt = 2 ^ 63 - 1 := by decide
    have least : Int64.minValue.toInt ≤ 0 := by decide
    rw [Timestamp.InRange, most]
    omega
  simp only [asTime, asNatBelow, if_pos small, bind, Except.bind,
    Timestamp.afterEpoch, carries, range]
  by_cases within : n.toNat < 2 ^ 63
  · simp only [if_pos within]
  · simp only [if_neg within]

theorem asTime_ok_iff {v : Json} :
    (∃ t, asTime v = .ok t) ↔
      ∃ n : UInt64, v = .number (.natural n) ∧ n.toNat < 2 ^ 63 := by
  constructor
  · rintro ⟨t, reads⟩
    obtain ⟨seconds, natural, -⟩ := bind_ok reads
    obtain ⟨n, rfl, -⟩ := asNatBelow_ok_iff.mp ⟨seconds, natural⟩
    refine ⟨n, rfl, ?_⟩
    rw [asTime_natural] at reads
    split at reads
    · next within => exact within
    · cases reads
  · rintro ⟨n, rfl, within⟩
    exact ⟨_, (asTime_natural n).trans (if_pos within)⟩

/-- The reading of a time stops at those beyond the clock. -/
theorem asTime_stops_iff {v : Json} {message : String} :
    asTime v = .error (.overflow message) ↔
      Late v ∧ message = Timestamp.Unreachable.after.message := by
  constructor
  · intro stops
    rcases bind_eq_error_iff.mp stops with unread | ⟨seconds, natural, -⟩
    · exact absurd unread (asNatBelow_steady _ _ v message)
    · obtain ⟨n, rfl, -⟩ := asNatBelow_ok_iff.mp ⟨seconds, natural⟩
      rw [asTime_natural] at stops
      split at stops
      · cases stops
      · next beyond =>
        cases stops
        exact ⟨⟨n, rfl, Nat.le_of_not_lt beyond⟩, rfl⟩
  · rintro ⟨⟨n, rfl, beyond⟩, rfl⟩
    exact (asTime_natural n).trans (if_neg (Nat.not_lt_of_le beyond))

/-! ## Fields -/

/-- The names of the fields that a kind of change has of its own. -/
def changeNames (label : String) : List String :=
  match label with
  | "registered" => ["dev_name", "ifindex", "netns"]
  | "link_up_down" => ["up"]
  | "renamed" => ["old_name", "new_name"]
  | "mtu_changed" => ["mtu"]
  | _ => []

/-- The names of the fields of an event of some kind, in order. -/
def fieldNames (label : String) : List String :=
  ["device"] ++ changeNames label ++ ["timestamp"]

/-- The values that the field called `name` takes; every other name stands
for no field and takes any value. -/
def Takes (name : String) (v : Json) : Prop :=
  match name with
  | "device" | "dev_name" | "netns" | "old_name" | "new_name" =>
    ∃ s, v = .string s
  | "up" => ∃ b, v = .bool b
  | "ifindex" | "mtu" =>
    ∃ n : UInt64, v = .number (.natural n) ∧ n.toNat < 2 ^ 32
  | "timestamp" =>
    ∃ n : UInt64, v = .number (.natural n) ∧ n.toNat < 2 ^ 63
  | _ => True

/-- From the place `i` on, the items are values for the fields called
`names`. -/
def FitFrom (i : Nat) : List String → List Json → Prop
  | [], _ => True
  | name :: names, items =>
    (∃ v, items[i]? = some v ∧ Takes name v) ∧ FitFrom (i + 1) names items

section Checks

variable {names : List String} {key : String} {v : Json} {message : String}
  {check : Json → Except Misfit Unit}

/-- What is checked of a field is whether it takes the value. -/
theorem check_ok_iff (chosen : (key, check) ∈ checks names) :
    check v = .ok () ↔ Takes key v := by
  have known := (List.mem_filter.mp chosen).1
  simp only [List.mem_cons, List.not_mem_nil, or_false, Prod.mk.injEq] at known
  rcases known with ⟨rfl, rfl⟩ | ⟨rfl, rfl⟩ | ⟨rfl, rfl⟩ | ⟨rfl, rfl⟩ |
    ⟨rfl, rfl⟩ | ⟨rfl, rfl⟩ | ⟨rfl, rfl⟩ | ⟨rfl, rfl⟩ | ⟨rfl, rfl⟩ <;>
    rw [fits_ok_iff]
  · exact asText_ok_iff
  · exact asText_ok_iff
  · exact ifIndex_ok_iff
  · exact asText_ok_iff
  · exact asFlag_ok_iff
  · exact asText_ok_iff
  · exact asText_ok_iff
  · exact asUInt32_ok_iff
  · exact asTime_ok_iff

theorem check_stops_iff (chosen : (key, check) ∈ checks names) :
    check v = .error (.overflow message) ↔
      key = "timestamp" ∧ Late v ∧
        message = Timestamp.Unreachable.after.message := by
  have known := (List.mem_filter.mp chosen).1
  have reported : ∀ {α : Type} {read : Reading α},
      (∀ v, Steady (read v)) → fits read v ≠ .error (.overflow message) :=
    fun steady => (steady v).map _ message
  simp only [List.mem_cons, List.not_mem_nil, or_false, Prod.mk.injEq] at known
  rcases known with ⟨rfl, rfl⟩ | ⟨rfl, rfl⟩ | ⟨rfl, rfl⟩ | ⟨rfl, rfl⟩ |
    ⟨rfl, rfl⟩ | ⟨rfl, rfl⟩ | ⟨rfl, rfl⟩ | ⟨rfl, rfl⟩ | ⟨rfl, rfl⟩
  · simp [reported asText_steady]
  · simp [reported asText_steady]
  · simp [reported ifIndex_steady]
  · simp [reported asText_steady]
  · simp [reported asFlag_steady]
  · simp [reported asText_steady]
  · simp [reported asText_steady]
  · simp [reported asUInt32_steady]
  · rw [← asTime_stops_iff, fits]
    cases asTime v <;> simp [Except.map]

/-- A field that is not checked takes any value. -/
theorem takes_of_unchecked
    (unchecked : ∀ check ∈ checks names, ¬ (check.1 == key) = true)
    (among : key ∈ names) : Takes key v := by
  simp only [checks, List.mem_filter, List.contains_iff_mem, and_imp,
    List.forall_mem_cons, beq_iff_eq] at unchecked
  unfold Takes
  split <;> simp_all

theorem member_ok_iff :
    (match (checks names).find? (fun check => check.1 == key) with
      | some (_, check) => check v
      | none => .ok ()) = .ok () ↔
      (key ∈ names → Takes key v) := by
  rcases found : (checks names).find? (fun check => check.1 == key) with
    _ | ⟨k, check⟩
  · simp only [found]
    exact iff_of_true trivial
      (takes_of_unchecked (List.find?_eq_none.mp found))
  · obtain rfl : k = key := by simpa using List.find?_some found
    have chosen := List.mem_of_find?_eq_some found
    have among : k ∈ names := by simpa using (List.mem_filter.mp chosen).2
    simp only [found, check_ok_iff chosen, among, true_imp_iff]

theorem member_stops_iff (timed : "timestamp" ∈ names) :
    (match (checks names).find? (fun check => check.1 == key) with
      | some (_, check) => check v
      | none => .ok ()) = .error (.overflow message) ↔
      key = "timestamp" ∧ Late v ∧
        message = Timestamp.Unreachable.after.message := by
  rcases found : (checks names).find? (fun check => check.1 == key) with
    _ | ⟨k, check⟩
  · simp only [found, reduceCtorEq, false_iff]
    rintro ⟨rfl, -⟩
    have checked : ("timestamp", fits asTime) ∈ checks names := by
      simp [checks, timed]
    exact List.find?_eq_none.mp found _ checked (by simp)
  · obtain rfl : k = key := by simpa using List.find?_some found
    simp only [found]
    exact check_stops_iff (List.mem_of_find?_eq_some found)

/-- The members of an object pass if each field among them takes its value. -/
theorem check_named_ok_iff {ms : List (String × Json)} :
    Fields.check (checks names) (.named ms) = .ok () ↔
      ∀ m ∈ ms, m.1 ∈ names → Takes m.1 m.2 := by
  rw [Fields.check, forM_eq_ok_iff]
  exact forall₂_congr fun m _ => member_ok_iff

/-- The check of the members of an object stops at a time beyond the clock,
if the fields among the members before it take their values. -/
theorem check_named_stops_iff {ms : List (String × Json)}
    (timed : "timestamp" ∈ names) :
    Fields.check (checks names) (.named ms) = .error (.overflow message) ↔
      (∃ before v after, ms = before ++ ("timestamp", v) :: after ∧
        (∀ m ∈ before, m.1 ∈ names → Takes m.1 m.2) ∧ Late v) ∧
      message = Timestamp.Unreachable.after.message := by
  rw [Fields.check, forM_eq_error_iff]
  constructor
  · rintro ⟨before, ⟨key, v⟩, after, split, pass, stops⟩
    obtain ⟨rfl, late, text⟩ := (member_stops_iff timed).mp stops
    exact ⟨⟨before, v, after, split,
      fun m mem => member_ok_iff.mp (pass m mem), late⟩, text⟩
  · rintro ⟨⟨before, v, after, split, pass, late⟩, text⟩
    exact ⟨before, _, after, split,
      fun m mem => member_ok_iff.mpr (pass m mem),
      (member_stops_iff timed).mpr ⟨rfl, late, text⟩⟩

end Checks

section Fields

variable {shape : RecordShape} {fields : Fields} {message : String}
  {readChange : Fields → Except Misfit Change}

/-- A reading of the fields stops in their check, or at the time when
everything before it has been read. -/
theorem ofFields_stops_iff (steady : Steady (readChange fields)) :
    ofFields shape readChange fields = .error (.overflow message) ↔
      fields.check (checks shape.names) = .error (.overflow message) ∨
      fields.check (checks shape.names) = .ok () ∧
        (∃ device, fields.required shape "device" asText = .ok device) ∧
        (∃ change, readChange fields = .ok change) ∧
        fields.required shape "timestamp" asTime =
          .error (.overflow message) := by
  have named := Fields.required_steady asText_steady shape "device" fields
  have measured : ∀ e, (if fields.surplus shape = 0 then
      (return e : Except Misfit Event)
    else .error <| .wrongLength (shape.names.length + fields.surplus shape)
      s!"{shape.names.length} elements in sequence") ≠
        .error (.overflow message) := by
    intro e
    split <;> nofun
  have passed : (∃ u, fields.check (checks shape.names) = .ok u) ↔
      fields.check (checks shape.names) = .ok () :=
    ⟨fun ⟨(), pass⟩ => pass, fun pass => ⟨(), pass⟩⟩
  simp only [ofFields, bind_eq_error_iff, measured, named message,
    steady message, and_false, exists_false, or_false, false_or,
    exists_and_right, passed]

/-- From an object the reading stops in the check of the members only: a time
that is found there has passed it. -/
theorem ofFields_named_stops_iff {ms : List (String × Json)}
    (timed : "timestamp" ∈ shape.names)
    (steady : Steady (readChange (.named ms))) :
    ofFields shape readChange (.named ms) = .error (.overflow message) ↔
      Fields.check (checks shape.names) (.named ms) =
        .error (.overflow message) := by
  rw [ofFields_stops_iff steady]
  refine or_iff_left ?_
  rintro ⟨pass, -, -, stops⟩
  rcases found : lookup? "timestamp" ms with _ | v
  · simp [Fields.required, found] at stops
  · have takes : Takes "timestamp" v :=
      check_named_ok_iff.mp pass _ (mem_of_lookup? found) timed
    obtain ⟨t, reads⟩ := asTime_ok_iff.mpr takes
    simp [Fields.required, found, reads] at stops

/-- From an array the reading stops at a time beyond the clock in its place,
if everything before it is read. -/
theorem ofFields_listed_stops_iff {items : List Json}
    (steady : Steady (readChange (.listed items))) :
    ofFields shape readChange (.listed items) = .error (.overflow message) ↔
      ((∃ v, items[shape.names.idxOf "device"]? = some v ∧
          ∃ s, v = .string s) ∧
        (∃ change, readChange (.listed items) = .ok change) ∧
        ∃ v, items[shape.names.idxOf "timestamp"]? = some v ∧ Late v) ∧
      message = Timestamp.Unreachable.after.message := by
  have timed : Fields.required shape "timestamp" asTime (.listed items) =
        .error (.overflow message) ↔
      (∃ v, items[shape.names.idxOf "timestamp"]? = some v ∧ Late v) ∧
        message = Timestamp.Unreachable.after.message := by
    rcases found : items[shape.names.idxOf "timestamp"]? with _ | v <;>
      simp [Fields.required, found, asTime_stops_iff]
  simp only [ofFields_stops_iff steady, Fields.check, reduceCtorEq, false_or,
    true_and, Fields.required_listed_ok_iff, asText_ok_iff, timed, and_assoc]

end Fields

/-! ## Kinds of events -/

theorem exists_return (change : Change) :
    (∃ c, (return change : Except Misfit Change) = .ok c) ↔ True :=
  iff_true_intro ⟨change, rfl⟩

theorem required_listed_iff {shape : RecordShape} {key : String} {i : Nat}
    {read : Reading α} {items : List Json}
    (place : shape.names.idxOf key = i)
    (reads : ∀ v, (∃ a, read v = .ok a) ↔ Takes key v) :
    (∃ a, Fields.required shape key read (.listed items) = .ok a) ↔
      ∃ v, items[i]? = some v ∧ Takes key v := by
  simp only [Fields.required_listed_ok_iff, place, reads]

/-- How the fields of an event of a known kind are read: in the order of
their names, and stopping at nothing but the time. -/
theorem ofLabel_eq_ofFields {label : String} (known : label ∈ labels) :
    ∃ title readChange,
      (∀ fields, ofLabel label fields =
        ofFields (shape title (changeNames label)) readChange fields) ∧
      (∀ fields, Steady (readChange fields)) ∧
      ∀ items, (∃ change, readChange (.listed items) = .ok change) ↔
        FitFrom 1 (changeNames label) items := by
  simp only [labels, List.mem_cons, List.not_mem_nil, or_false] at known
  rcases known with rfl | rfl | rfl | rfl | rfl
  · refine ⟨_, _, fun fields => rfl, fun fields => ?_, fun items => ?_⟩
    · refine (Fields.required_steady asText_steady _ _ _).bind fun _ => ?_
      refine (Fields.required_steady ifIndex_steady _ _ _).bind fun _ => ?_
      refine (Fields.required_steady asText_steady _ _ _).bind fun _ => ?_
      exact Steady.ok _
    · change _ ↔ FitFrom 1 ["dev_name", "ifindex", "netns"] items
      simp only [exists_bind_ok_iff, exists_return, and_true,
        exists_and_right, FitFrom]
      exact and_congr (required_listed_iff rfl fun _ => asText_ok_iff)
        (and_congr (required_listed_iff rfl fun _ => ifIndex_ok_iff)
          (required_listed_iff rfl fun _ => asText_ok_iff))
  · refine ⟨_, _, fun fields => rfl, fun fields => Steady.ok _, fun items => ?_⟩
    exact iff_of_true ⟨_, rfl⟩ trivial
  · refine ⟨_, _, fun fields => rfl, fun fields => ?_, fun items => ?_⟩
    · refine (Fields.required_steady asFlag_steady _ _ _).bind fun _ => ?_
      exact Steady.ok _
    · change _ ↔ FitFrom 1 ["up"] items
      simp only [exists_bind_ok_iff, exists_return, and_true, FitFrom]
      exact required_listed_iff rfl fun _ => asFlag_ok_iff
  · refine ⟨_, _, fun fields => rfl, fun fields => ?_, fun items => ?_⟩
    · refine (Fields.required_steady asText_steady _ _ _).bind fun _ => ?_
      refine (Fields.required_steady asText_steady _ _ _).bind fun _ => ?_
      exact Steady.ok _
    · change _ ↔ FitFrom 1 ["old_name", "new_name"] items
      simp only [exists_bind_ok_iff, exists_return, and_true,
        exists_and_right, FitFrom]
      exact and_congr (required_listed_iff rfl fun _ => asText_ok_iff)
        (required_listed_iff rfl fun _ => asText_ok_iff)
  · refine ⟨_, _, fun fields => rfl, fun fields => ?_, fun items => ?_⟩
    · refine (Fields.required_steady asUInt32_steady _ _ _).bind fun _ => ?_
      exact Steady.ok _
    · change _ ↔ FitFrom 1 ["mtu"] items
      simp only [exists_bind_ok_iff, exists_return, and_true, FitFrom]
      exact required_listed_iff rfl fun _ => asUInt32_ok_iff

theorem timestamp_mem_fieldNames (label : String) :
    "timestamp" ∈ fieldNames label := by
  simp [fieldNames]

theorem idxOf_timestamp {label : String} (known : label ∈ labels) :
    (fieldNames label).idxOf "timestamp" =
      (changeNames label).length + 1 := by
  have places : ∀ label ∈ labels, (fieldNames label).idxOf "timestamp" =
      (changeNames label).length + 1 := by decide
  exact places label known

theorem ofLabel_named_stops_iff {label message : String}
    {ms : List (String × Json)} (known : label ∈ labels) :
    ofLabel label (.named ms) = .error (.overflow message) ↔
      (∃ before v after, ms = before ++ ("timestamp", v) :: after ∧
        (∀ m ∈ before, m.1 ∈ fieldNames label → Takes m.1 m.2) ∧ Late v) ∧
      message = Timestamp.Unreachable.after.message := by
  obtain ⟨title, readChange, form, steady, -⟩ := ofLabel_eq_ofFields known
  have timed := timestamp_mem_fieldNames label
  rw [form, ofFields_named_stops_iff timed (steady _)]
  exact check_named_stops_iff timed

theorem ofLabel_listed_stops_iff {label message : String}
    {items : List Json} (known : label ∈ labels) :
    ofLabel label (.listed items) = .error (.overflow message) ↔
      (FitFrom 0 ("device" :: changeNames label) items ∧
        ∃ v, items[(changeNames label).length + 1]? = some v ∧ Late v) ∧
      message = Timestamp.Unreachable.after.message := by
  obtain ⟨title, readChange, form, steady, inOrder⟩ :=
    ofLabel_eq_ofFields known
  have first : (fieldNames label).idxOf "device" = 0 := List.idxOf_cons_self
  have last := idxOf_timestamp known
  rw [form, ofFields_listed_stops_iff (steady _), inOrder]
  change ((∃ v, items[(fieldNames label).idxOf "device"]? = some v ∧ _) ∧ _ ∧
    ∃ v, items[(fieldNames label).idxOf "timestamp"]? = some v ∧ _) ∧ _ ↔ _
  rw [first, last, ← and_assoc]
  rfl

/-! ## Events -/

/-- The values at which the reading stops.  In an object this is the first
member that does not fit its field, in an array everything before the time
fits. -/
inductive Overruns : Json → Prop
  | named {label : String} {members before after : List (String × Json)}
      {v : Json} (tagged : lookup? tag members = some (.string label))
      (known : label ∈ labels)
      (others : (members.filter fun m => m.1 != tag) =
        before ++ ("timestamp", v) :: after)
      (fit : ∀ m ∈ before, m.1 ∈ fieldNames label → Takes m.1 m.2)
      (late : Late v) : Overruns (.object members)
  | listed {label : String} {items : List Json} {v : Json}
      (known : label ∈ labels)
      (fit : FitFrom 0 ("device" :: changeNames label) items)
      (place : items[(changeNames label).length + 1]? = some v)
      (late : Late v) : Overruns (.array (.string label :: items))

theorem asLabel_steady (v : Json) : Steady (asLabel v) := by
  intro message stops
  rw [asLabel.eq_def] at stops
  split at stops
  · split at stops <;> cases stops
  · cases stops

theorem asLabel_eq_ok_iff {v : Json} {label : String} :
    asLabel v = .ok label ↔ v = .string label ∧ label ∈ labels := by
  cases v with
  | string s =>
    by_cases known : labels.contains s = true
    · have among : s ∈ labels := by simpa using known
      simp only [asLabel, if_pos known, Except.ok.injEq, Json.string.injEq]
      exact ⟨fun same => ⟨same, same ▸ among⟩, fun same => same.1⟩
    · have missing : s ∉ labels := by simpa using known
      simp only [asLabel, if_neg known, reduceCtorEq, Json.string.injEq,
        false_iff]
      rintro ⟨rfl, among⟩
      exact missing among
  | _ => simp [asLabel]

/-- The reading of an event stops exactly at the values that overrun the
clock, and always with the same message. -/
theorem ofJson_stops_iff {v : Json} {message : String} :
    ofJson v = .error (.overflow message) ↔
      Overruns v ∧ message = Timestamp.Unreachable.after.message := by
  constructor
  · intro stops
    rw [ofJson.eq_def] at stops
    split at stops
    · split at stops
      · cases stops
      · next members v tagged =>
        rcases bind_eq_error_iff.mp stops with unread | ⟨label, read, beyond⟩
        · exact absurd unread (asLabel_steady v message)
        · obtain ⟨rfl, known⟩ := asLabel_eq_ok_iff.mp read
          obtain ⟨⟨before, v, after, others, fit, late⟩, text⟩ :=
            (ofLabel_named_stops_iff known).mp beyond
          exact ⟨.named tagged known others fit late, text⟩
    · cases stops
    · next v items =>
      rcases bind_eq_error_iff.mp stops with unread | ⟨label, read, beyond⟩
      · exact absurd unread (asLabel_steady v message)
      · obtain ⟨rfl, known⟩ := asLabel_eq_ok_iff.mp read
        obtain ⟨⟨fit, v, place, late⟩, text⟩ :=
          (ofLabel_listed_stops_iff known).mp beyond
        exact ⟨.listed known fit place late, text⟩
    · cases stops
  · rintro ⟨overruns, text⟩
    cases overruns with
    | named tagged known others fit late =>
      have read := asLabel_eq_ok_iff.mpr ⟨rfl, known⟩
      simp only [ofJson, tagged]
      exact bind_eq_error_iff.mpr (Or.inr ⟨_, read,
        (ofLabel_named_stops_iff known).mpr
          ⟨⟨_, _, _, others, fit, late⟩, text⟩⟩)
    | listed known fit place late =>
      have read := asLabel_eq_ok_iff.mpr ⟨rfl, known⟩
      exact bind_eq_error_iff.mpr (Or.inr ⟨_, read,
        (ofLabel_listed_stops_iff known).mpr ⟨⟨fit, _, place, late⟩, text⟩⟩)

/-- Every JSON value that does not overrun the clock gives an event or a
misfit that is reported.  The reading stops exactly at the values that do, with
the message of the clock. -/
theorem stops_only_beyond_clock (v : Json) :
    (¬ Overruns v →
      (∃ e, ofJson v = .ok e) ∨
      ∃ misfit, ofJson v = .error misfit ∧
        ∀ message, misfit ≠ .overflow message) ∧
    ∀ message, ofJson v = .error (.overflow message) ↔
      Overruns v ∧ message = Timestamp.Unreachable.after.message := by
  refine ⟨fun within => ?_, fun message => ofJson_stops_iff⟩
  rcases reads : ofJson v with misfit | e
  · refine Or.inr ⟨misfit, rfl, ?_⟩
    rintro message rfl
    exact within (ofJson_stops_iff.mp reads).1
  · exact Or.inl ⟨e, rfl⟩

/-- The JSON form of the release of an interface at some second. -/
def departure (seconds : UInt64) : Json :=
  .object
    [(tag, .string "unregistered"), ("device", .string "gtp"),
      ("timestamp", .number (.natural seconds))]

/-- The first second that the clock has no room for overruns it. -/
theorem departure_overruns : Overruns (departure 0x8000000000000000) := by
  refine @Overruns.named "unregistered" _ [("device", .string "gtp")] []
    (.number (.natural 0x8000000000000000)) rfl (by decide) rfl ?_
    ⟨_, rfl, by decide⟩
  intro m among _
  obtain rfl := List.mem_singleton.mp among
  exact ⟨_, rfl⟩

/-- The reading of an event stops at some value, so it does not always give an
event or a misfit that is reported. -/
theorem departure_unreported :
    ¬ ∀ v, (∃ e, ofJson v = .ok e) ∨
      ∃ misfit, ofJson v = .error misfit ∧
        ∀ message, misfit ≠ .overflow message := by
  intro reported
  have stops := ofJson_stops_iff.mpr ⟨departure_overruns, rfl⟩
  rcases reported (departure 0x8000000000000000) with
    ⟨e, reads⟩ | ⟨misfit, reads, steady⟩
  · rw [stops] at reads
    cases reads
  · rw [stops] at reads
    cases reads
    exact steady _ rfl

/-- The last second of the clock is read, the next one is not. -/
theorem departure_at_last_second :
    (∃ e, ofJson (departure 0x7fffffffffffffff) = .ok e) ∧
    ¬ Overruns (departure 0x7fffffffffffffff) ∧
    ∃ message,
      ofJson (departure 0x8000000000000000) = .error (.overflow message) := by
  have reads : ofJson (departure 0x7fffffffffffffff) =
      .ok ⟨"gtp", .unregistered, ⟨0x7fffffffffffffff, 0⟩⟩ := by
    rfl
  have within : ¬ Overruns (departure 0x7fffffffffffffff) := by
    intro overruns
    have stops := ((stops_only_beyond_clock _).2 _).mpr ⟨overruns, rfl⟩
    rw [reads] at stops
    cases stops
  refine ⟨?_, within,
    ⟨_, ((stops_only_beyond_clock _).2 _).mpr ⟨departure_overruns, rfl⟩⟩⟩
  rcases (stops_only_beyond_clock _).1 within with read | ⟨misfit, refused, -⟩
  · exact read
  · rw [reads] at refused
    cases refused

end Event

end InterfaceManager
