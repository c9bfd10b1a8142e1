import WebKeys.Proofs.Scripts

/-!
# Records of operations

Five conversions note their end, and one of them is a part of another (`readingWebKey`). What a call
notes of ends is the list of the operations inside it, each once, the inner ones first
(`Call.endings_perform`); so a journal that keeps everything has one entry for each
(`filter_entriesIn`), and its line shows the outcome and the identifier (`Ended.jsonLine`,
`Ended.humanLine`).

* `Call.ends`: the operations inside a call. Those on the bytes of a key store are there only if the
  store answers.
* `logging_only_observes`: scripts with the same calls get the same answers, and what their journals
  say.
-/

namespace WebKeys

open Log (Level)

namespace Session

variable {α : Type} {s : Session}

/-! ## The operations inside a call -/

namespace Ended

/-- The end of a conversion, whatever its result. -/
def of (op : Operation) (r : Result α) : Ended :=
  ⟨Conversion.logger, op.name, r.map fun _ => ()⟩

def event (e : Ended) : Log.Event := Traced.ended e.logger e.name e.outcome

theorem event_of (op : Operation) (r : Result α) :
    (of op r).event = Traced.ended Conversion.logger op.name r :=
  Conversion.ended_map _ _ r fun _ => ()

end Ended

/-- Bytes are read to a key in one operation. -/
def readingKey (bs : Option Bytes) (tag : String) : List Ended :=
  [.of .decodeKey (Conversion.decodeKey bs tag).result]

/-- They are read to a web key in another around it, which may refuse the key type first. -/
def readingWebKey (bs : Option Bytes) (tag : String) (kid : Option String) : List Ended :=
  (match Conversion.lookup .decodeWebKey tag with
    | .ok t => readingKey bs t.tag
    | .error _ => []) ++
  [.of .decodeWebKey (Conversion.decodeWebKey bs tag kid).result]

/-- What a store answers when a key is to be created under a tag. -/
def Manager.created (m : Manager) (tag : String) (s : Session) :
    Result (KeyType × Option String × Option Bytes) :=
  (KeyType.require tag).bind fun t => (m.toStore.create t s).1.result.map fun r => (t, r)

/-- What a store answers when a key is to be exported. -/
def Manager.exported (m : Manager) (id : String) (s : Session) : Result (Option Bytes × KeyType) :=
  (m.toStore.exportKey id s).1.result.bind fun r => (KeyType.require r.2).map fun t => (r.1, t)

/-- The operations that note their end in the course of a call, in the order of their ends. -/
def Call.ends : Call α → Session → List Ended
  | decodeKey bs tag, _ => readingKey bs tag
  | decodeWebKey bs tag kid, _ => readingWebKey bs tag kid
  | wrapKey c kid use alg, _ => [.of .wrapKey (Conversion.wrapKey c kid use alg).result]
  | view c, _ => [.of .viewWebKey (Conversion.view c).result]
  | encodeKey c tag, s => [.of .encodeKey (s.encodeKey c tag).1.result]
  | createWebKey m tag, s =>
    match m.created tag s with
    | .ok (t, id, bs) => readingWebKey bs t.tag id
    | .error _ => []
  | createKey m tag, s =>
    match m.created tag s with
    | .ok (t, _, bs) => readingKey bs t.tag
    | .error _ => []
  | exportWebKey m id, s =>
    match m.exported id s with
    | .ok (bs, t) => readingWebKey bs t.tag (some id)
    | .error _ => []
  | _, _ => []

/-- The operation that a call is one of, if that notes its end. -/
def Call.operation? : Call α → Option Operation
  | decodeKey _ _ => some .decodeKey
  | decodeWebKey _ _ _ => some .decodeWebKey
  | wrapKey _ _ _ _ => some .wrapKey
  | view _ => some .viewWebKey
  | encodeKey _ _ => some .encodeKey
  | _ => none

/-- Its own end comes last and is that of its answer. -/
theorem Call.ends_of_operation? {c : Call α} {op : Operation} (h : c.operation? = some op)
    (s : Session) : ∃ inner, c.ends s = inner ++ [.of op (s.run c.perform).1] := by
  cases c with
  | decodeKey | wrapKey | view | encodeKey => cases h; exact ⟨[], rfl⟩
  | decodeWebKey => cases h; exact ⟨_, rfl⟩
  | _ => cases h

/-! ## What a call notes -/

/-- The events that note the end of an operation. -/
def endings (es : List Log.Event) : List Log.Event := es.filter (·.timed)

theorem events_decodeKey (bs : Option Bytes) (tag : String) :
    (Conversion.decodeKey bs tag).events = (readingKey bs tag).map Ended.event := by
  rw [readingKey, List.map_singleton, Ended.event_of]
  rfl

theorem events_decodeWebKey (bs : Option Bytes) (tag : String) (kid : Option String) :
    (Conversion.decodeWebKey bs tag kid).events = (readingWebKey bs tag kid).map Ended.event := by
  rw [readingWebKey, List.map_append, List.map_singleton, Ended.event_of, Conversion.decodeWebKey,
    Traced.result_timed]
  refine congrArg (· ++ _) ?_
  cases Conversion.lookup .decodeWebKey tag with
  | error e => rfl
  | ok t =>
    dsimp only
    rw [← events_decodeKey, Traced.andThen_of_ok rfl]
    cases hkey : (Conversion.decodeKey bs t.tag).result with
    | error e => simp [Traced.ofResult, Traced.andThen_of_error hkey]
    | ok k => simp [Traced.ofResult, Traced.andThen_of_ok hkey]

theorem endings_map_event (es : List Ended) :
    endings (es.map Ended.event) = es.map Ended.event := by
  refine List.filter_eq_self.mpr fun e he => ?_
  obtain ⟨x, -, rfl⟩ := List.mem_map.mp he
  cases hx : x.outcome <;> simp [Ended.event, Traced.ended, hx]

theorem endings_timed (op : Operation) (r : Result α) :
    endings (Traced.timed Conversion.logger op.name (.ofResult r)).events =
      [Ended.of op r].map Ended.event := by
  rw [← endings_map_event, List.map_singleton, Ended.event_of]
  rfl

theorem endings_append (es es' : List Log.Event) :
    endings (es ++ es') = endings es ++ endings es' :=
  List.filter_append _ _

/-- What goes on without a note of its end adds none. -/
theorem endings_andThen {β : Type} (t : Traced α) {f : α → Traced β}
    (hf : ∀ a, endings (f a).events = []) : endings (t.andThen f).events = endings t.events := by
  unfold Traced.andThen
  split
  · rw [endings_append, hf, List.append_nil]
  · rfl

/-- The events of a store are not about the end of an operation. -/
theorem endings_create (m : Manager) (t : KeyType) (s : Session) :
    endings (m.toStore.create t s).1.events = [] := by
  cases m with
  | outside create exportKey => rfl
  | held position =>
    show endings (s.createIn position t).1.events = []
    unfold createIn
    split
    · rfl
    · refine (endings_andThen _ fun _ => rfl).trans ?_
      unfold LocalStore.create
      split
      · rfl
      · split <;> rfl

theorem events_exportKey (m : Manager) (id : String) (s : Session) :
    (m.toStore.exportKey id s).1.events = [] := by
  cases m with
  | outside create exportKey => rfl
  | held position =>
    show (s.exportFrom position id).1.events = []
    unfold exportFrom
    split <;> rfl

/-- A creation notes what the reading of the store's bytes notes, if the store answers with any. -/
theorem endings_createThen {m : Manager} {tag : String}
    {f : KeyType → Option String → Option Bytes → Traced α}
    {reading : KeyType → Option String → Option Bytes → List Ended}
    (hf : ∀ t id bs, endings (f t id bs).events = (reading t id bs).map Ended.event) (s : Session) :
    endings (m.toStore.createThen tag f s).1.events =
      (match m.created tag s with
        | .ok (t, id, bs) => reading t id bs
        | .error _ => []).map Ended.event := by
  unfold KeyStore.createThen Manager.created
  cases KeyType.require tag with
  | error e => rfl
  | ok t =>
    dsimp only [Except.bind]
    cases hstore : (m.toStore.create t s).1.result with
    | error e =>
      rw [Traced.andThen_of_error hstore]
      exact endings_create m t s
    | ok r =>
      rw [Traced.andThen_of_ok hstore, endings_append, endings_create, hf]
      rfl

theorem endings_exportWebKey (m : Manager) (id : String) (s : Session) :
    endings (m.toStore.exportWebKey id s).1.events =
      ((Call.exportWebKey m id).ends s).map Ended.event := by
  unfold KeyStore.exportWebKey Call.ends Manager.exported
  dsimp only
  cases hstore : (m.toStore.exportKey id s).1.result with
  | error e =>
    rw [Traced.andThen_of_error hstore, events_exportKey]
    rfl
  | ok r =>
    rw [Traced.andThen_of_ok hstore, events_exportKey, List.nil_append]
    dsimp only [Except.bind]
    cases KeyType.require r.2 with
    | error e => rfl
    | ok t =>
      rw [Traced.andThen_of_ok rfl, endings_append, endings_andThen _ fun _ => rfl,
        events_decodeWebKey, endings_map_event]
      rfl

/-- A call notes the end of each operation inside it once, and in the order of the ends. -/
theorem Call.endings_perform (c : Call α) (s : Session) :
    endings (c.perform s).1.events = (c.ends s).map Ended.event := by
  cases c with
  | decodeKey bs tag => exact endings_timed .decodeKey _
  | decodeWebKey bs tag kid =>
    show endings (Conversion.decodeWebKey bs tag kid).events = _
    rw [events_decodeWebKey, endings_map_event]
    rfl
  | wrapKey c kid use alg => exact endings_timed .wrapKey _
  | view c => exact endings_timed .viewWebKey _
  | encodeKey c tag => exact endings_timed .encodeKey _
  | createWebKey m tag =>
    refine endings_createThen (fun t id bs => ?_) s
    rw [endings_andThen _ fun _ => rfl, events_decodeWebKey, endings_map_event]
  | createKey m tag =>
    refine endings_createThen (fun t id bs => ?_) s
    rw [endings_andThen _ fun _ => rfl, events_decodeKey, endings_map_event]
  | exportWebKey m id => exact endings_exportWebKey m id s
  | wrapX25519 | keyPair | addLocalStore | reset | register => rfl
  | create position tag =>
    show endings (s.createTagged position tag).1.events = []
    unfold createTagged
    split
    · rfl
    · split
      · rfl
      · exact endings_create (.held position) _ s
  | exportKey position id => exact congrArg endings (events_exportKey (.held position) id s)
  | configure =>
    show endings s.configuredStore.1.events = []
    unfold configuredStore
    split
    · rfl
    · dsimp only
      split
      · rfl
      · split <;> rfl

/-! ## Records -/

def Occurrence.ends : Occurrence → List Ended
  | call c s => c.ends s
  | ended e => [e]

theorem Occurrence.endings_events (x : Occurrence) : endings x.events = x.ends.map Ended.event := by
  cases x with
  | call c s => exact c.endings_perform s
  | ended e => exact endings_map_event [e]

namespace Ended

/-- The entry of an end, under the identifier in force. -/
def entry (json : Bool) (id : Option String) (e : Ended) : Log.Entry :=
  ⟨e.event, { correlation := id }, json⟩

def message (e : Ended) : String :=
  e.name ++ match e.outcome with
    | .ok _ => " completed"
    | .error _ => " failed"

/-- The operation, and what it failed with. -/
def fields (e : Ended) : Members :=
  ("operation", .string e.name) :: match e.outcome with
    | .ok _ => []
    | .error f => [("error", .string f.message), ("error_type", .string f.kindName),
        ("key_type", Json.ofOption f.keyType?)]

theorem event_eq (e : Ended) : e.event = ⟨e.logger, Level.debug, e.message, e.fields, true⟩ := by
  unfold event Traced.ended message fields
  cases e.outcome <;> rfl

end Ended

/-- The endings kept by the journal are those of the calls, tagged with the identifier in force. -/
theorem filter_entriesOf {v : Log.Setup} (hlevel : v.threshold ≤ Level.debug) (id : Option String)
    {es : List Log.Event} {ends : List Ended} (hes : endings es = ends.map Ended.event) :
    (Log.Journal.entriesOf (some v) { correlation := id } es).filter (·.event.timed) =
      ends.map (Ended.entry v.json id) := by
  have hkept : (es.filter fun e => v.threshold ≤ e.level).filter (·.timed) = endings es := by
    rw [List.filter_filter]
    refine List.filter_congr fun e he => ?_
    cases htimed : e.timed with
    | false => rfl
    | true =>
      have hend : e ∈ endings es := List.mem_filter.mpr ⟨he, htimed⟩
      rw [hes] at hend
      obtain ⟨x, -, rfl⟩ := List.mem_map.mp hend
      simpa [Ended.event_eq] using hlevel
  show ((es.filter fun e => v.threshold ≤ e.level).map _).filter _ = _
  rw [List.filter_map]
  show ((es.filter fun e => v.threshold ≤ e.level).filter (·.timed)).map _ = _
  rw [hkept, hes, List.map_map]
  rfl

/-- Where everything is kept, there is one entry for each end, under the identifier it occurs
under. -/
theorem filter_entriesIn {v : Log.Setup} (hlevel : v.threshold ≤ Level.debug)
    (xs : List (Option String × Occurrence)) :
    (entriesIn (some v) xs).filter (·.event.timed) =
      xs.flatMap fun m => m.2.ends.map (Ended.entry v.json m.1) := by
  rw [entriesIn, List.filter_flatMap]
  exact congrArg (List.flatMap · xs)
    (funext fun m => filter_entriesOf hlevel m.1 m.2.endings_events)

/-! ## Lines -/

/-- The member of a line that shows an identifier, unless there is none or it is empty. -/
def tagMember (id : Option String) : Members :=
  match id.filter (· ≠ "") with
  | some cid => [("correlation_id", .string cid)]
  | none => []

/-- In a line for people it is the beginning of the identifier that is shown. -/
def tagText (id : Option String) : String :=
  match id.filter (· ≠ "") with
  | some cid => "[cid=" ++ Log.Record.firstOf 8 cid ++ "] "
  | none => ""

namespace Ended

/-- The fields of a line, the time last. -/
def shownFields (now : Log.Moment) (e : Ended) : Members :=
  e.fields ++ [("duration_ms", .float now.elapsed)]

theorem maskValue_ofOption (text : Option String) :
    Log.maskValue (Json.ofOption text) = Json.ofOption text := by
  cases text <;> rfl

/-- No field is masked. -/
theorem mask_shownFields (now : Log.Moment) (e : Ended) :
    Log.mask (e.shownFields now) = e.shownFields now := by
  have hoperation : Log.isSensitive "operation" = false := by decide +kernel
  have herror : Log.isSensitive "error" = false := by decide +kernel
  have hkind : Log.isSensitive "error_type" = false := by decide +kernel
  have hkeyType : Log.isSensitive "key_type" = false := by decide +kernel
  have hduration : Log.isSensitive "duration_ms" = false := by decide +kernel
  unfold shownFields fields
  cases e.outcome with
  | ok u => simp [Log.mask, Log.maskValue, hoperation, hduration]
  | error f =>
    simp [Log.mask, Log.maskValue, maskValue_ofOption, hoperation, herror, hkind, hkeyType,
      hduration]

theorem record_entry (json : Bool) (id : Option String) (now : Log.Moment) (e : Ended) :
    (e.entry json id).record now =
      { level := Level.debug, logger := e.logger, message := e.message,
        fields := e.shownFields now, correlation := id, source := ⟨"", 0, ""⟩ } := by
  rw [Log.Entry.record, entry, event_eq]
  rfl

/-- The line of JSON a finished call leaves. -/
theorem jsonLine (now : Log.Moment) (e : Ended) (id : Option String) :
    (e.entry true id).line now = (Json.object ([("timestamp", .string now.timestamp),
      ("level", .string "DEBUG"), ("logger", .string e.logger), ("message", .string e.message)]
        ++ tagMember id ++ e.shownFields now)).toText := by
  have hown : Log.Record.ownMembers now
      { level := Level.debug, logger := e.logger, message := e.message, fields := e.shownFields now,
        correlation := id, source := ⟨"", 0, ""⟩ } =
      [("timestamp", .string now.timestamp), ("level", .string "DEBUG"),
        ("logger", .string e.logger), ("message", .string e.message)] ++ tagMember id := by
    unfold Log.Record.ownMembers Log.Record.identifier? tagMember
    cases id.filter (· ≠ "") <;> rfl
  have hnodup (time message logger : Json) : (([("timestamp", time), ("level", .string "DEBUG"),
      ("logger", logger), ("message", message)] ++ tagMember id ++ e.shownFields now).map
        (·.1)).Nodup := by
    unfold tagMember shownFields fields
    cases id.filter (· ≠ "") <;> cases e.outcome <;> simp
  rw [Log.Entry.line, record_entry, entry, if_pos rfl, Log.Record.toJsonLine, Log.Record.members,
    if_neg (show ¬Level.warning ≤ Level.debug by decide), hown, mask_shownFields]
  exact congrArg (fun ms => (Json.object ms).toText) (Members.update_eq_append (hnodup _ _ _))

/-- The line for people a finished call leaves. -/
theorem humanLine (now : Log.Moment) (e : Ended) (id : Option String) :
    (e.entry false id).line now = "\x1b[36m" ++ now.timeOfDay ++ " " ++ "DEBU" ++ "\x1b[0m" ++
      " [" ++ e.logger ++ "] " ++ tagText id ++ e.message ++ " | " ++
      String.intercalate " " ((e.shownFields now).map fun m => m.1 ++ "=" ++ m.2.shown) := by
  have hfields : Log.Record.fieldsText (e.shownFields now) = " | " ++
      String.intercalate " " ((e.shownFields now).map fun m => m.1 ++ "=" ++ m.2.shown) := by
    rw [Log.Record.fieldsText, mask_shownFields]
    rfl
  have hlevel : Log.Record.firstOf 4 Level.debug.name = "DEBU" := by decide +kernel
  have hcolour : Log.Record.colour Level.debug.name = "\x1b[36m" := rfl
  have htext (text : String) : toString text = text := rfl
  rw [Log.Entry.line, record_entry, entry, if_neg Bool.false_ne_true, Log.Record.toHumanLine]
  unfold Log.Record.identifier? tagText
  cases id.filter (· ≠ "") <;>
    simp only [hfields, hlevel, hcolour, htext, Log.Record.plain, String.append_assoc,
      String.empty_append]

end Ended

/-! ## Sessions and their journals -/

/-- Where the settings are in force, setting the journal up does nothing else. -/
theorem setUpJournal_eq {v : Settings} (h : s.settings? = some v) (json : Option Bool)
    (level : Option String) : ∃ journal,
      (s.setUpJournal json level).2 = s.under journal s.correlation ∧
        ∀ setup, (s.setUpJournal json level).1 = .ok setup → journal.setup? = some setup := by
  unfold setUpJournal
  rw [consult_of_settings? h]
  dsimp only
  split
  · exact ⟨s.journal, rfl, fun setup hsetup => by cases hsetup⟩
  · exact ⟨s.journal.setUp _, rfl, fun setup hsetup => congrArg some (Except.ok.inj hsetup)⟩

/-- Two scripts with the same calls end in the same way, with the same answers, under any journals
and identifiers, and leave sessions that are alike; with settings in force, setting the journal up
makes for nothing but another journal. A script leaves the identifier in force as it was, however it
ends. Its entries are those of all that occurs in it, each with the identifier of the innermost
block around it; and where everything is kept, there is one for each end of an operation, in the
order of the ends, and no other that is about an end. The end of an operation comes after those
inside it and is that of its answer. A line of either kind says whether it was completed or failed,
and with what, and shows the identifier unless that is empty. -/
theorem logging_only_observes (p : Script) (s : Session) :
    (∀ (q : Script) journal id, q.bare = p.bare →
      (q.run (s.under journal id)).1 = (p.run s).1 ∧
      q.answers (s.under journal id) = p.answers s ∧
      Alike (p.run s).2 (q.run (s.under journal id)).2) ∧
    (∀ v json level, s.settings? = some v → ∃ journal : Log.Journal,
      (s.setUpJournal json level).2 = s.under journal s.correlation ∧
        ∀ setup, (s.setUpJournal json level).1 = .ok setup → journal.setup? = some setup) ∧
    (p.run s).2.correlation = s.correlation ∧
    (p.run s).2.journal.entries =
      s.journal.entries ++ entriesIn s.journal.setup? (p.trace s.correlation s) ∧
    (∀ v, s.journal.setup? = some v → v.threshold ≤ Level.debug →
      (p.run s).2.journal.entries.filter (·.event.timed) =
        s.journal.entries.filter (·.event.timed) ++
          (p.trace s.correlation s).flatMap fun m => m.2.ends.map (Ended.entry v.json m.1)) ∧
    (∀ (α : Type) (c : Call α) (op : Operation) (s : Session), c.operation? = some op →
      ∃ inner, c.ends s = inner ++ [.of op (s.run c.perform).1]) ∧
    ∀ (e : Ended) (id : Option String) (now : Log.Moment),
      (e.entry true id).line now = (Json.object ([("timestamp", .string now.timestamp),
        ("level", .string "DEBUG"), ("logger", .string e.logger), ("message", .string e.message)]
          ++ tagMember id ++ e.shownFields now)).toText ∧
      (e.entry false id).line now = "\x1b[36m" ++ now.timeOfDay ++ " " ++ "DEBU" ++ "\x1b[0m" ++
        " [" ++ e.logger ++ "] " ++ tagText id ++ e.message ++ " | " ++
        String.intercalate " " ((e.shownFields now).map fun m => m.1 ++ "=" ++ m.2.shown) := by
  have hadds := p.adds s
  refine ⟨fun q journal id hbare => ?_, fun v json level h => setUpJournal_eq h json level,
    hadds.correlation, hadds.entries, fun v hsetup hlevel => ?_,
    fun α c op s h => Call.ends_of_operation? h s, fun e id now => ⟨e.jsonLine now id, e.humanLine now id⟩⟩
  · obtain ⟨hend, hlast, hanswers⟩ := p.alike_bare (alike_under journal id s) s.correlation none
    obtain ⟨hend', hlast', hanswers'⟩ :=
      q.alike_bare (alike_under journal id (s.under journal id)) id none
    rw [hbare] at hend' hlast' hanswers'
    exact ⟨hend'.symm.trans hend, hanswers'.symm.trans hanswers, hlast.trans hlast'.symm⟩
  · rw [hadds.entries, List.filter_append, hsetup, filter_entriesIn hlevel]

/-- A block adds its identifier to the lines about a failure and the one inside it, and changes
nothing else. -/
theorem failure_in_block_tagged :
    let s : Session :=
      { settings? := some {}
        journal := { setup? := some ⟨Level.debug, false⟩ }
        entropy := { seed := [] } }
    let p : Script := .call (.decodeWebKey none "ED25519" none) fun _ => .done
    let q : Script := .block (some "0123456789") p fun _ => .done
    q.answers (s.setUpJournal none none).2 = p.answers s ∧
      (q.run s).2.correlation = none ∧
      (∃ inner, (Call.decodeWebKey none "ED25519" none).ends s =
        inner ++ [.of .decodeWebKey (Conversion.decodeWebKey none "ED25519").result]) ∧
      ((q.run s).2.journal.entries.filter (·.event.timed)).map
          (·.line ⟨"", "12:00:00.000", .finite false 15 (-1)⟩) =
        ["\x1b[36m12:00:00.000 DEBU\x1b[0m [kmsjwk.core.jwk_adapter] [cid=01234567] " ++
          "pub_key_bytes_to_key failed | operation=pub_key_bytes_to_key " ++
          "error=pub_key_bytes_to_key: public key bytes are empty error_type=EmptyInputError " ++
          "key_type=ED25519 duration_ms=1.5",
        "\x1b[36m12:00:00.000 DEBU\x1b[0m [kmsjwk.core.jwk_adapter] [cid=01234567] " ++
          "pub_key_bytes_to_jwk failed | operation=pub_key_bytes_to_jwk " ++
          "error=pub_key_bytes_to_key: public key bytes are empty error_type=EmptyInputError " ++
          "key_type=ED25519 duration_ms=1.5"] := by
  intro s p q
  obtain ⟨halike, hsetUp, -⟩ := logging_only_observes p s
  obtain ⟨-, -, hid, -, hentries, hends, hlines⟩ := logging_only_observes q s
  obtain ⟨journal, hjournal, -⟩ := hsetUp {} none none rfl
  refine ⟨?_, hid, hends _ (.decodeWebKey none "ED25519" none) .decodeWebKey s rfl, ?_⟩
  · rw [hjournal]
    exact (halike q journal none rfl).2.1
  · rw [hentries ⟨Level.debug, false⟩ rfl (by decide)]
    show [((Ended.of .decodeKey (Conversion.decodeKey none "ED25519").result).entry false
        (some "0123456789")).line _,
      ((Ended.of .decodeWebKey (Conversion.decodeWebKey none "ED25519").result).entry false
        (some "0123456789")).line _] = _
    rw [(hlines _ _ _).2, (hlines _ _ _).2]
    decide +kernel

end Session

end WebKeys
