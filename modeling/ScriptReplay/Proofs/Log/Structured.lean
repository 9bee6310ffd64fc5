import ScriptReplay.Log.Event
import ScriptReplay.Proofs.Json.Fields
import ScriptReplay.Proofs.Json.RoundTrip
import ScriptReplay.Proofs.Result

/-!
# Events written as JSON

An event is put together from what it says of itself, from the fields that were added to it and from
its exception, where what comes later replaces what comes before it (`fields_eq`). It is written in
one line, which reads as these fields (`structured_outcome`). It is not written at all where its time
has no date or the pattern of the date holds a null character.
-/

namespace ScriptReplay.Log

/-! ## Timestamps -/

/-- A time can be written where it has a date and the pattern holds no null character. -/
theorem exists_timestamp_iff [Zone] (time : Time) (pattern : Option String) :
    (∃ text, timestamp time pattern = .ok text) ↔
      (∃ moment, momentOf time = .ok moment) ∧ ∀ p ∈ pattern, '\x00' ∉ p.toList := by
  unfold timestamp
  cases hmoment : momentOf time with
  | error error =>
    constructor
    · rintro ⟨text, htext⟩
      cases htext
    · rintro ⟨⟨moment, hdated⟩, -⟩
      cases hdated
  | ok moment =>
    refine Iff.trans ?_ (and_iff_right ⟨moment, rfl⟩).symm
    cases pattern with
    | none => exact iff_of_true ⟨_, rfl⟩ nofun
    | some p =>
      by_cases hempty : p = ""
      · subst hempty
        exact iff_of_true ⟨_, rfl⟩ (by simp)
      · by_cases hnul : '\x00' ∈ p.toList
        · refine iff_of_false ?_ (by simp [hnul])
          rintro ⟨text, htext⟩
          simp [bind, Except.bind, Option.filter, hempty, hnul] at htext
        · refine iff_of_true ?_ (by simpa using hnul)
          simp [bind, Except.bind, Option.filter, hempty, hnul]

namespace Event

variable {event : Event} {pattern current : Option String} {timestamp message : String}
  {extra : Fields}

theorem exists_timestamp_iff [Zone] (event : Event) (pattern : Option String) :
    (∃ text, event.timestamp pattern = .ok text) ↔
      (∃ moment, momentOf event.time = .ok moment) ∧ ∀ p ∈ pattern, '\x00' ∉ p.toList := by
  rw [← Log.exists_timestamp_iff]
  unfold Event.timestamp
  cases Log.timestamp event.time pattern with
  | error error => exact ⟨nofun, nofun⟩
  | ok text => exact iff_of_true ⟨text, rfl⟩ ⟨text, rfl⟩

/-! ## What an event is put together from -/

/-- The correlation id of an event: its own, or the one in force now if its own is missing or empty.
An empty one counts for nothing here either. -/
inductive Correlated (event : Event) (current : Option String) : Option String → Prop
  | own (id : String) (h : event.correlation = some id) (hne : id ≠ "") :
      Correlated event current (some id)
  | current (id : String) (hown : event.correlation.getD "" = "") (h : current = some id)
      (hne : id ≠ "") : Correlated event current (some id)
  | none (hown : event.correlation.getD "" = "") (h : current.getD "" = "") :
      Correlated event current none

/-- What an event says of itself. -/
def ownFields (event : Event) (timestamp message : String) (id : Option String) : Fields :=
  [("timestamp", .str timestamp), ("level", .str event.level.name),
    ("logger", .str event.logger), ("message", .str message)] ++
    id.toList.map fun id => ("correlation_id", .str id)

/-- The exception of an event. -/
def exceptionFields (event : Event) : Fields :=
  event.exceptionText.toList.map fun text => ("exception", .str text)

theorem correlated_correlationToWrite (event : Event) (current : Option String) :
    Correlated event current (event.correlationToWrite current) := by
  unfold correlationToWrite
  split
  · next id hown =>
    obtain ⟨hid, hne⟩ := Option.filter_eq_some_iff.1 hown
    exact .own id hid (by simpa using hne)
  · next hown =>
    have hempty : event.correlation.getD "" = "" := by
      cases hid : event.correlation with
      | none => rfl
      | some id => simpa [hid] using hown
    cases current with
    | none => exact .none hempty rfl
    | some id =>
      by_cases hne : id = ""
      · subst hne
        exact .none hempty rfl
      · have hkept : (some id).filter (!·.isEmpty) = some id := by simp [Option.filter, hne]
        rw [hkept]
        exact .current id hempty rfl hne

theorem nodup_keys_ownFields (event : Event) (timestamp message : String) (id : Option String) :
    (Fields.keys (event.ownFields timestamp message id)).Nodup := by
  cases id with
  | none =>
    change ["timestamp", "level", "logger", "message"].Nodup
    decide
  | some id =>
    change ["timestamp", "level", "logger", "message", "correlation_id"].Nodup
    decide

/-- An event is put together from its own fields, which are updated with those that were added to it
and with its exception. -/
theorem fields_eq [Zone] (htimestamp : event.timestamp pattern = .ok timestamp)
    (hmessage : event.message = .ok message)
    (hextra : fieldsOf (event.extra.getD (.obj [])) = .ok extra) :
    event.fields pattern current =
      .ok (Fields.update (event.ownFields timestamp message (event.correlationToWrite current))
        (extra ++ event.exceptionFields)) := by
  have hset : Fields.update (event.ownFields timestamp message (event.correlationToWrite current))
      (extra ++ event.exceptionFields) =
        Fields.update (Fields.update
          (event.ownFields timestamp message (event.correlationToWrite current)) extra)
          event.exceptionFields := List.foldl_append
  rw [hset]
  unfold fields ownFields exceptionFields
  rw [htimestamp, hmessage, hextra]
  cases event.correlationToWrite current with
  | none => cases event.exceptionText <;> rfl
  | some id => cases event.exceptionText <;> rfl

/-! ## What is written -/

theorem structured_eq [Zone] (htimestamp : event.timestamp pattern = .ok timestamp)
    (hmessage : event.message = .ok message)
    (hextra : fieldsOf (event.extra.getD (.obj [])) = .ok extra) :
    event.structured pattern current =
      .ok (Json.obj (Fields.update
        (event.ownFields timestamp message (event.correlationToWrite current))
        (extra ++ event.exceptionFields))).text := by
  unfold structured
  rw [fields_eq htimestamp hmessage hextra]
  rfl

/-- Where the message and the fields that were added are there, only the timestamp can fail. -/
theorem exists_structured_iff [Zone] (pattern current : Option String)
    (hmessage : event.message = .ok message)
    (hextra : fieldsOf (event.extra.getD (.obj [])) = .ok extra) :
    (∃ text, event.structured pattern current = .ok text) ↔
      ∃ timestamp, event.timestamp pattern = .ok timestamp := by
  constructor
  · rintro ⟨text, htext⟩
    obtain ⟨fields, hfields, -⟩ := bind_eq_ok.1 htext
    obtain ⟨timestamp, htimestamp, -⟩ := bind_eq_ok.1 hfields
    exact ⟨timestamp, htimestamp⟩
  · rintro ⟨timestamp, htimestamp⟩
    exact ⟨_, structured_eq htimestamp hmessage hextra⟩

/-- An event whose message and added fields are there is written where its time has a date and the
pattern holds no null character. What is written has no control characters, so it is one line, and
it reads as an object in which no key occurs twice: each has the value that it has in the event's
own fields, the added ones and the exception, where the last one counts. -/
theorem structured_outcome [Zone] (pattern current : Option String)
    (hmessage : event.message = .ok message)
    (hextra : fieldsOf (event.extra.getD (.obj [])) = .ok extra) :
    ((∃ text, event.structured pattern current = .ok text) ↔
      (∃ moment, momentOf event.time = .ok moment) ∧ ∀ p ∈ pattern, '\x00' ∉ p.toList) ∧
    ∀ text, event.structured pattern current = .ok text →
      Json.NoControl text.toList ∧
      ∃ timestamp id fields, event.timestamp pattern = .ok timestamp ∧
        Correlated event current id ∧ Json.read? text.toList = some (.obj fields) ∧
        (Fields.keys fields).Nodup ∧
        ∀ key, Fields.get? fields key =
          Fields.get? (event.ownFields timestamp message id ++ extra ++ event.exceptionFields)
            key := by
  have hwritten := exists_structured_iff pattern current hmessage hextra
  refine ⟨hwritten.trans (exists_timestamp_iff event pattern), fun text htext => ?_⟩
  obtain ⟨timestamp, htimestamp⟩ := hwritten.1 ⟨text, htext⟩
  rw [structured_eq htimestamp hmessage hextra] at htext
  cases htext
  have hown := nodup_keys_ownFields event timestamp message (event.correlationToWrite current)
  rw [Json.text, String.toList_ofList]
  refine ⟨Json.noControl_write _, timestamp, _, _, htimestamp,
    correlated_correlationToWrite event current, Json.read?_write _,
    Fields.nodup_keys_update hown _, fun key => ?_⟩
  rw [Fields.get?_update hown, List.append_assoc]

/-- An event whose added fields replace its message and are themselves replaced by its exception,
which has two lines. Its own correlation id is empty, so the one in force is written. -/
theorem structured_outcome_replaced :
    let event : Event :=
      { logger := "sqlscript.loader", level := .error, text := "read"
        correlation := some ""
        extra := some (.obj [("message", .arr [.num (-7), .obj [("deep", .null)]]),
          ("exception", .bool true)])
        incident := some (.other .value [.str "first\n\"second\""]) }
    ∃ text fields, event.structured (some "%Y") (some "night") = .ok text ∧
      Json.NoControl text.toList ∧ Json.read? text.toList = some (.obj fields) ∧
      (Fields.keys fields).Nodup ∧ Fields.get? fields "level" = some (.str "ERROR") ∧
      Fields.get? fields "message" = some (.arr [.num (-7), .obj [("deep", .null)]]) ∧
      Fields.get? fields "correlation_id" = some (.str "night") ∧
      Fields.get? fields "exception" = some (.str "ValueError: first\n\"second\"") := by
  intro event
  obtain ⟨hwritten, hreads⟩ := structured_outcome (some "%Y") (some "night")
    (show event.message = .ok "read" from rfl)
    (show fieldsOf (event.extra.getD (.obj [])) =
      .ok [("message", .arr [.num (-7), .obj [("deep", .null)]]), ("exception", .bool true)] from rfl)
  obtain ⟨text, htext⟩ := hwritten.2
    ⟨⟨_, show momentOf {} = .ok (.ofSeconds 0) from rfl⟩, by simp⟩
  obtain ⟨hline, timestamp, id, fields, -, hid, hread, hnodup, hget⟩ := hreads text htext
  obtain rfl : id = some "night" := by
    cases hid with
    | own id hown hne => exact absurd (Option.some.inj hown).symm hne
    | current id hown hcurrent hne => exact hcurrent.symm
    | none hown hcurrent => exact absurd hcurrent (by decide)
  refine ⟨text, fields, htext, hline, hread, hnodup, ?_, ?_, ?_, ?_⟩ <;> rw [hget] <;> rfl

/-- Nothing is written by a pattern that holds a null character. -/
theorem not_forall_exists_structured :
    ¬ ∀ (event : Event) (pattern current : Option String) (message : String) (extra : Fields),
      event.message = .ok message → fieldsOf (event.extra.getD (.obj [])) = .ok extra →
      ∃ text, event.structured pattern current = .ok text := by
  intro h
  obtain ⟨text, htext⟩ := h { logger := "sqlscript", level := .info, text := "m" } (some "%Y\x00")
    none "m" [] rfl rfl
  cases htext

end Event

end ScriptReplay.Log
