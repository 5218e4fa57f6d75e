import InterfaceManager.Event.Codec
import InterfaceManager.Proofs.Json.Readings
import InterfaceManager.Proofs.Json.RoundTrip

/-!
# Events survive their JSON forms

The JSON form of an event reads back as the event at the last whole second,
whichever order its members are in, and whatever reads as an event survives
unchanged.
-/

namespace InterfaceManager

theorem IfIndex.ofJson_toJson (i : IfIndex) :
    ofJson i.toJson = .ok i := by
  rw [ofJson, toJson, Json.asUInt32_nat]
  rfl

/-- A distance in whole seconds that the clock reaches. -/
theorem Timestamp.afterEpoch_eq_ok_iff {seconds : Nat}
    (small : seconds < UInt64.size) {t : Timestamp} :
    afterEpoch seconds 0 = .ok t ↔
      InRange seconds ∧ t = ⟨seconds, 0⟩ := by
  have carries : carried seconds 0 = .ok (seconds, 0) := by
    simp [carried, small, second]
  simp only [afterEpoch, carries, bind, Except.bind]
  split
  · next within => simp [within, eq_comm]
  · next outside => simp [outside]

namespace Event

open Json

/-- The event at the last whole second. -/
def wholeSeconds (e : Event) : Event :=
  { e with time := ⟨e.time.seconds, 0⟩ }

theorem asTime_nat {seconds : Int} (later : 0 ≤ seconds)
    (within : Timestamp.InRange seconds) :
    asTime (.nat seconds.toNat) = .ok ⟨seconds, 0⟩ := by
  have exact : (seconds.toNat : Int) = seconds := Int.toNat_of_nonneg later
  have small : seconds.toNat < UInt64.size := by
    have := within.2
    have bound : Int64.maxValue.toInt < UInt64.size := by decide
    omega
  have reaches := (Timestamp.afterEpoch_eq_ok_iff small (t := ⟨seconds, 0⟩)).mpr
    ⟨exact.symm ▸ within, by rw [exact]⟩
  simp only [asTime, asNatBelow_nat small (Nat.le_refl _), bind, Except.bind,
    reaches]

/-- A time that was read is a whole second at or after the epoch. -/
theorem asTime_ok {v : Json} {t : Timestamp} (reads : asTime v = .ok t) :
    0 ≤ t.seconds ∧ Timestamp.InRange t.seconds ∧ t.nanos = 0 := by
  rcases natural : asNatBelow UInt64.size "u64" v with misfit | seconds
  · simp [asTime, natural, bind, Except.bind] at reads
  · have small := asNatBelow_lt natural
    rcases reached : Timestamp.afterEpoch seconds 0 with far | u
    · simp [asTime, natural, bind, Except.bind, reached] at reads
    · obtain ⟨within, rfl⟩ := (Timestamp.afterEpoch_eq_ok_iff small).mp reached
      simp only [asTime, natural, bind, Except.bind, reached,
        Except.ok.injEq] at reads
      subst reads
      exact ⟨Int.natCast_nonneg seconds, within, rfl⟩

/-- The members of the JSON form beside the tag. -/
def fields (e : Event) : List (String × Json) :=
  ("device", .string e.device) :: changeMembers e.change
    ++ [("timestamp", .nat e.time.seconds.toNat)]

def members (e : Event) : List (String × Json) :=
  (tag, .string e.change.label) :: fields e

theorem toJson?_eq (e : Event) :
    e.toJson? =
      if e.time.isBeforeEpoch then none else some (.object e.members) := by
  obtain ⟨device, change, time⟩ := e
  cases change <;> rfl

theorem nodup_keys (e : Event) : (e.members.map Prod.fst).Nodup := by
  obtain ⟨device, change, time⟩ := e
  cases change <;> simp [members, fields, changeMembers, tag]

/-- Whatever is checked of a member of the JSON form holds. -/
theorem passes {e : Event} (later : 0 ≤ e.time.seconds)
    (within : Timestamp.InRange e.time.seconds) {names : List String}
    {check : String × (Json → Except Misfit Unit)}
    (chosen : check ∈ checks names) :
    ∀ m ∈ e.fields, check.1 = m.1 → check.2 m.2 = .ok () := by
  have time := asTime_nat later within
  have known := (List.mem_filter.mp chosen).1
  obtain ⟨device, change, t⟩ := e
  simp only [List.mem_cons, List.not_mem_nil, or_false] at known
  rcases known with rfl | rfl | rfl | rfl | rfl | rfl | rfl | rfl | rfl <;>
    cases change <;>
    simp [fields, changeMembers, fits, Except.map, asText, asFlag,
      asUInt32_nat, IfIndex.ofJson_toJson, time]

/-! ## Reading back -/

theorem ofFields_named {ms : List (String × Json)} {shape : RecordShape}
    {readChange : Fields → Except Misfit Change} {v w : Json}
    {device : String} {change : Change} {time : Timestamp}
    (pass : Fields.check (checks shape.names) (.named ms) = .ok ())
    (foundDevice : lookup? "device" ms = some v)
    (isDevice : asText v = .ok device)
    (isChange : readChange (.named ms) = .ok change)
    (foundTime : lookup? "timestamp" ms = some w)
    (isTime : asTime w = .ok time) :
    ofFields shape readChange (.named ms) = .ok ⟨device, change, time⟩ := by
  simp only [ofFields, pass, Fields.required_named shape foundDevice isDevice,
    isChange, Fields.required_named shape foundTime isTime, Fields.surplus,
    bind, Except.bind]
  rfl

/-- Whatever shows the fields of the JSON form reads, under the label of the
change, as the event at the last whole second. -/
theorem ofLabel_named {e : Event} {ms : List (String × Json)}
    (pass : ∀ names, Fields.check (checks names) (.named ms) = .ok ())
    (found : ∀ key, key ≠ tag → lookup? key ms = lookup? key e.fields)
    (later : 0 ≤ e.time.seconds)
    (within : Timestamp.InRange e.time.seconds) :
    ofLabel e.change.label (.named ms) = .ok e.wholeSeconds := by
  have time := asTime_nat later within
  have device : lookup? "device" ms = some (.string e.device) :=
    (found _ (by decide)).trans rfl
  have timestamp : lookup? "timestamp" ms =
      some (.nat e.time.seconds.toNat) := by
    rw [found _ (by decide)]
    obtain ⟨device, change, t⟩ := e
    cases change <;> simp [fields, changeMembers]
  have reads : ∀ {α : Type} {shape : RecordShape} {v : Json} {a : α}
      (key : String) (read : Reading α), key ≠ tag →
      lookup? key e.fields = some v → read v = .ok a →
      Fields.required shape key read (.named ms) = .ok a :=
    fun key _ other shown good =>
      Fields.required_named _ ((found key other).trans shown) good
  obtain ⟨deviceName, change, t⟩ := e
  cases change with
  | registered devName ifindex netns =>
    rw [Change.label, ofLabel]
    refine ofFields_named (pass _) device rfl ?_ timestamp time
    rw [reads "dev_name" asText (by decide) rfl rfl,
      reads "ifindex" IfIndex.ofJson (by decide) rfl
        (IfIndex.ofJson_toJson ifindex),
      reads "netns" asText (by decide) rfl rfl]
    rfl
  | unregistered =>
    rw [Change.label, ofLabel]
    exact ofFields_named (pass _) device rfl rfl timestamp time
  | linkUpDown up =>
    rw [Change.label, ofLabel]
    refine ofFields_named (pass _) device rfl ?_ timestamp time
    rw [reads "up" asFlag (by decide) rfl rfl]
    rfl
  | renamed oldName newName =>
    rw [Change.label, ofLabel]
    refine ofFields_named (pass _) device rfl ?_ timestamp time
    rw [reads "old_name" asText (by decide) rfl rfl,
      reads "new_name" asText (by decide) rfl rfl]
    rfl
  | mtuChanged mtu =>
    rw [Change.label, ofLabel]
    refine ofFields_named (pass _) device rfl ?_ timestamp time
    rw [reads "mtu" asUInt32 (by decide) rfl (asUInt32_nat mtu)]
    rfl

/-- An object with the members of the JSON form reads as the event at the
last whole second. -/
theorem ofJson_object {e : Event} {ms : List (String × Json)}
    (agrees : Agrees ms e.members) (later : 0 ≤ e.time.seconds)
    (within : Timestamp.InRange e.time.seconds) :
    ofJson (.object ms) = .ok e.wholeSeconds := by
  have tagged : lookup? tag ms = some (.string e.change.label) := by
    rw [agrees.lookup?_eq, members, lookup?_cons, if_pos rfl]
  have labelled : asLabel (.string e.change.label) = .ok e.change.label := by
    obtain ⟨device, change, t⟩ := e
    cases change <;> rfl
  have pass : ∀ names, Fields.check (checks names)
      (.named (ms.filter fun m => m.1 != tag)) = .ok () := by
    intro names
    refine Fields.check_named fun m mem check chosen same => ?_
    obtain ⟨shown, untagged⟩ := List.mem_filter.mp mem
    rcases List.mem_cons.mp (agrees.subset m shown) with rfl | field
    · simp at untagged
    · exact passes later within chosen m field same
  have found : ∀ key, key ≠ tag →
      lookup? key (ms.filter fun m => m.1 != tag) = lookup? key e.fields := by
    intro key other
    rw [lookup?_filter (fun key => key != tag) (by simpa using other),
      agrees.lookup?_eq, members, lookup?_cons, if_neg (Ne.symm other)]
  rw [ofJson, tagged]
  change asLabel _ >>= _ = _
  rw [labelled]
  exact ofLabel_named pass found later within

/-! ## What was read -/

theorem ofFields_ok {shape : RecordShape}
    {readChange : Fields → Except Misfit Change} {fields : Fields} {e : Event}
    (reads : ofFields shape readChange fields = .ok e) :
    readChange fields = .ok e.change ∧ ∃ v, asTime v = .ok e.time := by
  obtain ⟨_, -, reads⟩ := bind_ok reads
  obtain ⟨device, -, reads⟩ := bind_ok reads
  obtain ⟨change, isChange, reads⟩ := bind_ok reads
  obtain ⟨time, isTime, reads⟩ := bind_ok reads
  split at reads
  · cases reads
    exact ⟨isChange, Fields.required_ok isTime⟩
  · cases reads

/-- An event that was read under a label is of that kind. -/
theorem ofLabel_ok {label : String} {fields : Fields} {e : Event}
    (reads : ofLabel label fields = .ok e) :
    e.change.label = label ∧ ∃ v, asTime v = .ok e.time := by
  obtain ⟨device, change, t⟩ := e
  unfold ofLabel at reads
  split at reads
  · obtain ⟨isChange, isTime⟩ := ofFields_ok reads
    obtain ⟨_, -, isChange⟩ := bind_ok isChange
    obtain ⟨_, -, isChange⟩ := bind_ok isChange
    obtain ⟨_, -, isChange⟩ := bind_ok isChange
    cases isChange
    exact ⟨rfl, isTime⟩
  · obtain ⟨isChange, isTime⟩ := ofFields_ok reads
    cases isChange
    exact ⟨rfl, isTime⟩
  · obtain ⟨isChange, isTime⟩ := ofFields_ok reads
    obtain ⟨_, -, isChange⟩ := bind_ok isChange
    cases isChange
    exact ⟨rfl, isTime⟩
  · obtain ⟨isChange, isTime⟩ := ofFields_ok reads
    obtain ⟨_, -, isChange⟩ := bind_ok isChange
    obtain ⟨_, -, isChange⟩ := bind_ok isChange
    cases isChange
    exact ⟨rfl, isTime⟩
  · obtain ⟨isChange, isTime⟩ := ofFields_ok reads
    obtain ⟨_, -, isChange⟩ := bind_ok isChange
    cases isChange
    exact ⟨rfl, isTime⟩
  · cases reads

/-- An event that was read was read under some label. -/
theorem ofJson_ok {v : Json} {e : Event} (reads : ofJson v = .ok e) :
    ∃ fields, ofLabel e.change.label fields = .ok e := by
  have under : ∀ label fields, ofLabel label fields = .ok e →
      ∃ fields, ofLabel e.change.label fields = .ok e :=
    fun label fields read => ⟨fields, (ofLabel_ok read).1.symm ▸ read⟩
  unfold ofJson at reads
  split at reads
  · split at reads
    · cases reads
    · obtain ⟨label, -, reads⟩ := bind_ok reads
      exact under _ _ reads
  · cases reads
  · obtain ⟨label, -, reads⟩ := bind_ok reads
    exact under _ _ reads
  · cases reads

/-- The time of an event that was read is a whole second at or after the
epoch. -/
theorem time_of_ofJson {v : Json} {e : Event} (reads : ofJson v = .ok e) :
    0 ≤ e.time.seconds ∧ Timestamp.InRange e.time.seconds ∧
      e.wholeSeconds = e := by
  obtain ⟨fields, labelled⟩ := ofJson_ok reads
  obtain ⟨-, w, isTime⟩ := ofLabel_ok labelled
  obtain ⟨later, within, whole⟩ := asTime_ok isTime
  obtain ⟨device, change, ⟨seconds, nanos⟩⟩ := e
  cases whole
  exact ⟨later, within, rfl⟩

/-! ## Both ways -/

/-- An object reads as the kind of change that its tag names. -/
theorem label_of_ofJson {ms : List (String × Json)} {label : String}
    {e : Event} (tagged : lookup? tag ms = some (.string label))
    (reads : ofJson (.object ms) = .ok e) : e.change.label = label := by
  rw [ofJson, tagged] at reads
  obtain ⟨read, isLabel, reads⟩ := bind_ok reads
  have same : read = label := by
    rw [asLabel] at isLabel
    split at isLabel
    · exact (Except.ok.inj isLabel).symm
    · cases isLabel
  rw [(ofLabel_ok reads).1, same]

/-- The JSON form of an event in the range of the clock reads back, as a value
and as a document. -/
theorem reads_toJson? {e : Event} (later : 0 ≤ e.time.seconds)
    (within : Timestamp.InRange e.time.seconds) :
    ∃ v, e.toJson? = some v ∧ ofJson v = .ok e.wholeSeconds ∧
      (Json.parse? v.render).map ofJson = some (.ok e.wholeSeconds) := by
  have written : e.toJson? = some (.object e.members) := by
    rw [toJson?_eq, if_neg]
    simpa [Timestamp.isBeforeEpoch] using later
  have whole : Json.Whole (.object e.members) := by
    obtain ⟨device, change, t⟩ := e
    cases change <;>
      simp [members, fields, changeMembers, Json.Whole, Json.WholeMembers,
        IfIndex.toJson, Json.nat, Number.Whole]
  have flat : sortedMembers e.members = e.members := by
    obtain ⟨device, change, t⟩ := e
    cases change <;> rfl
  obtain ⟨ms, sorts, agrees⟩ := ofMembers_agrees e.nodup_keys
  have document : Json.parse? (Json.object e.members).render =
      some (.object ms) := by
    rw [Json.parse?_render _ whole, Json.sorted, flat, sorts]
  refine ⟨_, written, ofJson_object (Agrees.refl _) later within, ?_⟩
  rw [document, Option.map_some, ofJson_object agrees later within]

/-- Every event at or after the epoch survives its JSON form, as a value and as
a document, up to the last whole second; an event before the epoch has none.
Whatever reads as an event is an event that survives unchanged, and the JSON
form of an event reads as no other kind of change. -/
theorem survives_json :
    (∀ e : Event, 0 ≤ e.time.seconds → Timestamp.InRange e.time.seconds →
      ∃ v, e.toJson? = some v ∧ ofJson v = .ok e.wholeSeconds ∧
        (Json.parse? v.render).map ofJson = some (.ok e.wholeSeconds)) ∧
    (∀ e : Event, e.toJson? = none ↔ e.time.seconds < 0) ∧
    (∀ v e, ofJson v = .ok e →
      ∃ w, e.toJson? = some w ∧ ofJson w = .ok e ∧
        (Json.parse? w.render).map ofJson = some (.ok e)) ∧
    (∀ (e : Event) v d, e.toJson? = some v → ofJson v = .ok d →
      d.change.label = e.change.label) := by
  refine ⟨fun e later within => reads_toJson? later within, fun e => ?_,
    fun v e reads => ?_, fun e v d written reads => ?_⟩
  · rw [toJson?_eq, Timestamp.isBeforeEpoch]
    by_cases before : e.time.seconds < 0 <;> simp [before]
  · obtain ⟨later, within, whole⟩ := time_of_ofJson reads
    have survives := reads_toJson? later within
    rwa [whole] at survives
  · rw [toJson?_eq] at written
    split at written
    · cases written
    · cases written
      refine label_of_ofJson ?_ reads
      rw [members, lookup?_cons, if_pos rfl]

/-- A device that was bound in the second half of a second. -/
def boundLate : Event where
  device := "gtp"
  change := .registered "gtp0" ⟨4⟩ "ns_a"
  time := ⟨1700000000, 500000000⟩

theorem boundLate_survives_json :
    0 ≤ boundLate.time.seconds ∧
    Timestamp.InRange boundLate.time.seconds ∧
    boundLate.toJson?.map Json.render =
      some ("\x7b\"type\":\"registered\",\"device\":\"gtp\"," ++
        "\"dev_name\":\"gtp0\",\"ifindex\":4,\"netns\":\"ns_a\"," ++
        "\"timestamp\":1700000000\x7d") ∧
    ∃ v, boundLate.toJson? = some v ∧
      ofJson v = .ok { boundLate with time := ⟨1700000000, 0⟩ } := by
  have later : 0 ≤ boundLate.time.seconds := by decide
  have within : Timestamp.InRange boundLate.time.seconds := by decide
  obtain ⟨v, written, reads, -⟩ := survives_json.1 boundLate later within
  exact ⟨later, within, by decide +kernel, v, written, reads⟩

end Event

end InterfaceManager
