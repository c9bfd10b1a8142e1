import WebKeys.CommandLine.Run
import WebKeys.Proofs.ConfiguredStore
import WebKeys.Proofs.DecodingFailures
import WebKeys.Proofs.PublicForms

/-!
# Exit codes

A run of the program ends with one of four exit codes, whatever its arguments and its input are.
Every fault that has a code is a complaint and prints nothing else; what is printed with the code
zero can always be printed, since a key that was read is one that can be published.

* `Invocation.Escapes`: the three ways in which a run ends without an exit code.
* `Invocation.Answers`: what each exit code of a conversion says of the input.
* `exit_codes`: there are no other ways, and every conversion is answered like that.
-/

namespace WebKeys

open Outcome

/-! ## Keys that are read can be printed -/

namespace Key

theorem settled_of_ofPoint {c : Curve} {bs : Bytes} {k : EcKey} (h : EcKey.ofPoint c bs = .ok k) :
    (Key.ec k).Settled := by
  obtain ⟨-, hbare, hpoint, -⟩ := EcKey.toPoint_of_ofPoint h
  refine ⟨hpoint, ?_, fun d hd => ?_⟩
  · rw [← hbare]
    rfl
  · rw [← hbare] at hd
    cases hd

/-- Whatever the layout, a key that is read is one that can be published. -/
theorem valid_of_ofPublicBytes {t : KeyType} {bs : Bytes} {k : Key}
    (h : ofPublicBytes t bs = .ok k) : k.Valid := by
  unfold ofPublicBytes at h
  split at h
  · obtain ⟨k, hk, rfl⟩ := map_eq_ok.mp h
    exact valid_of_settled (settled_of_ofPoint hk)
  · obtain ⟨k, hk, rfl⟩ := map_eq_ok.mp h
    obtain ⟨info, form, k', -, -, hk', rfl⟩ := EcKey.ofDer_eq_ok_iff.mp hk
    have hsettled := settled_of_ofPoint hk'
    show (Key.ec (k'.remembering form)).withoutForm.Settled
    have hform : (Key.ec (k'.remembering form)).withoutForm = .ec k' := by
      have hnone : ({ k' with form := none } : EcKey) = k' := by rw [← hsettled.2.1]
      unfold EcKey.remembering
      split <;> exact congrArg Key.ec hnone
    rw [hform]
    exact hsettled
  · obtain ⟨k, hk, rfl⟩ := map_eq_ok.mp h
    obtain ⟨n, e, rest, -, -, -, hfit, rfl⟩ := RsaKey.ofDer_eq_ok_iff.mp hk
    exact ⟨_, RsaKey.publicPart_accepted (k := { n := n, e := e }) hfit⟩
  · obtain ⟨k, hk, rfl⟩ := map_eq_ok.mp h
    obtain ⟨point, hread⟩ := EcKey.exists_ofPoint_of_ofKeyWrapJson hk
    exact valid_of_settled (settled_of_ofPoint hread)
  · next hlayout hcurve =>
    obtain ⟨k, hk, rfl⟩ := map_eq_ok.mp h
    obtain rfl := OkpKey.ofRaw_eq_ok hk
    exact ⟨hk, (curve_family hcurve).trans (family_of_raw hlayout).1, fun seed hseed => by cases hseed⟩
  · obtain ⟨k, hk, rfl⟩ := map_eq_ok.mp h
    obtain rfl := ofCompressed_eq_ok hk
    exact ⟨hk, fun d hd => by cases hd⟩
  · cases h

end Key

namespace Conversion

/-- A web key that is decoded can be published. -/
theorem exists_published_of_decodeWebKey {bs : Option Bytes} {t : KeyType} {kid : Option String}
    {w : WebKey} (h : (decodeWebKey bs t.tag kid).result = .ok w) :
    ∃ doc, WebKey.Published w doc := by
  obtain ⟨k, hk, rfl⟩ := decodeWebKey_eq_ok_iff.mp h
  by_cases ht : t.family = .symmetric
  · rw [(failures_of_symmetric ht bs kid).1] at hk
    cases hk
  · rw [(results_of_decoding ht bs kid).1] at hk
    obtain ⟨data, -, hdata⟩ := keyOfBytes_eq_ok hk
    exact WebKey.Valid.exists_published ⟨Key.valid_of_ofPublicBytes hdata, rfl, rfl⟩

end Conversion

/-! ## What settings are good for -/

namespace Settings

/-- The level of the log is one that has a name. -/
theorem exists_level {sources : List Members} {v : Settings} (h : ofSources sources = .ok v) :
    ∃ l, Log.Level.ofName? v.logLevel = some l := by
  have hlisted : ∀ name ∈ levelNames, ∃ l, Log.Level.ofName? name = some l := by
    simp only [levelNames, List.forall_mem_cons]
    exact ⟨⟨_, rfl⟩, ⟨_, rfl⟩, ⟨_, rfl⟩, ⟨_, rfl⟩, ⟨_, rfl⟩, by simp⟩
  obtain hdefault | ⟨text, hread⟩ := field_eq_ok (fields_of_ofSources h).1
  · rw [hdefault]
    exact hlisted _ (by decide)
  · obtain ⟨s, -, hname⟩ := bind_eq_ok.mp hread
    split at hname
    · split at hname
      · next hmem =>
        rw [← Except.ok.inj hname]
        exact hlisted _ (by simpa using hmem)
      · cases hname
    · cases hname

end Settings

namespace CommandLine

attribute [local instance (2000)] instPowNat

open Session (configuring)
open Text (lowercase)

variable {colours : Bool} {input : Source → Except ReadFault Bytes} {s : Session}

/-! ## Ends of a command -/

/-- A command comes to an end with an exit code and what it prints. -/
def Ends (code : ExitCode) (output : Output) (r : Result Outcome) : Prop :=
  ∃ o, r = .ok o ∧ o.code = code ∧ o.output = output

theorem ends_complain (colours : Bool) (code : ExitCode) (text : String) :
    Ends code .nothing (.ok (complain colours code text)) := ⟨_, rfl, rfl, rfl⟩

theorem ends_conclude_of_ok (colours : Bool) (format : Format) {w : WebKey} {doc : Document}
    (h : WebKey.Published w doc) : ∃ text, render format w = .ok text ∧
      Ends .ok (.text text) (conclude colours format (.ok w)) := by
  have hrender : ∃ text, render format w = .ok text := by
    unfold render
    rw [h.members, ok_bind]
    cases format <;> exact ⟨_, rfl⟩
  obtain ⟨text, htext⟩ := hrender
  refine ⟨text, htext, { code := .ok, output := .text text }, ?_, rfl, rfl⟩
  rw [conclude, printed, htext, ok_bind]
  rfl

/-- Conversion errors and reports of a store are complaints. -/
theorem ends_conclude_of_error {format : Format} {e : Failure}
    (h : (∃ e', e = .conversion e') ∨ ∃ fault, e = .store fault) :
    Ends .failed .nothing (conclude colours format (.error e)) := by
  obtain ⟨e, rfl⟩ | ⟨fault, rfl⟩ := h <;> exact ends_complain _ _ _

/-! ## Converting -/

/-- The bytes under a registered type that a conversion gets to read. -/
def Gives (input : Source → Except ReadFault Bytes) (a : ConvertArguments) (t : KeyType)
    (bs : Bytes) : Prop :=
  KeyType.ofTag? a.keyType = some t ∧ a.source.isPossible = true ∧ input a.source = .ok bs

theorem convert_of_impossible {a : ConvertArguments} {t : KeyType}
    (ht : KeyType.ofTag? a.keyType = some t) (hname : a.source.isPossible = false) :
    (convert colours input a s).1 = .error (.refused .fileName) := by
  rw [convert, ht]
  dsimp only
  rw [hname]
  rfl

theorem convert_of_gives {a : ConvertArguments} {t : KeyType} {bs data : Bytes}
    (h : Gives input a t bs) (hdata : decodeInput a.input bs = .ok data) :
    (convert colours input a s).1 =
      conclude colours a.format (Conversion.decodeWebKey (some data) t.tag a.kid).result := by
  obtain ⟨ht, hname, hbs⟩ := h
  rw [convert, ht]
  dsimp only
  rw [hname, hbs]
  dsimp only
  rw [hdata]
  rfl

/-- What a conversion comes to. -/
inductive Converting (input : Source → Except ReadFault Bytes) (a : ConvertArguments)
    (r : Result Outcome) : Prop
  | unregistered (ht : KeyType.ofTag? a.keyType = none) (h : Ends .misuse .nothing r)
  | impossible (t : KeyType) (ht : KeyType.ofTag? a.keyType = some t)
      (hname : a.source.isPossible = false) (h : r = .error (.refused .fileName))
  | unreadable (t : KeyType) (fault : ReadFault) (ht : KeyType.ofTag? a.keyType = some t)
      (hinput : input a.source = .error fault) (h : Ends .unreadable .nothing r)
  | undecoded (t : KeyType) (bs : Bytes) (text : String) (hbs : Gives input a t bs)
      (hdata : decodeInput a.input bs = .error text) (h : Ends .failed .nothing r)
  | longArc (t : KeyType) (bs data : Bytes) (hbs : Gives input a t bs)
      (hdata : decodeInput a.input bs = .ok data)
      (hlong : Conversion.LongArcUnder t.tag (some data)) (h : r = .error (.refused .arc))
  | unconverted (t : KeyType) (bs data : Bytes) (e : Failure) (hbs : Gives input a t bs)
      (hdata : decodeInput a.input bs = .ok data)
      (he : (Conversion.decodeWebKey (some data) t.tag a.kid).result = .error e)
      (h : Ends .failed .nothing r)
  | converted (t : KeyType) (bs data : Bytes) (w : WebKey) (text : String)
      (hbs : Gives input a t bs) (hdata : decodeInput a.input bs = .ok data)
      (hw : (Conversion.decodeWebKey (some data) t.tag a.kid).result = .ok w)
      (htext : render a.format w = .ok text) (h : Ends .ok (.text text) r)

theorem convert_of_longArc {a : ConvertArguments} {t : KeyType} {bs data : Bytes}
    (h : Gives input a t bs) (hdata : decodeInput a.input bs = .ok data)
    (hlong : Conversion.LongArcUnder t.tag (some data)) :
    (convert colours input a s).1 = .error (.refused .arc) := by
  rw [convert_of_gives h hdata, Conversion.decodeWebKey_of_longArc hlong]
  rfl

/-- Every outcome of `convert` is one of the listed ones. -/
theorem converting (colours : Bool) (input : Source → Except ReadFault Bytes)
    (a : ConvertArguments) (s : Session) : Converting input a (convert colours input a s).1 := by
  cases ht : KeyType.ofTag? a.keyType with
  | none =>
    refine .unregistered ht ?_
    rw [convert, ht]
    exact ends_complain _ _ _
  | some t =>
    cases hname : a.source.isPossible with
    | false => exact .impossible t ht hname (convert_of_impossible ht hname)
    | true =>
      cases hinput : input a.source with
      | error fault =>
        refine .unreadable t fault ht hinput ?_
        rw [convert, ht]
        dsimp only
        rw [hname, hinput]
        exact ends_complain _ _ _
      | ok bs =>
        have hbs : Gives input a t bs := ⟨ht, hname, hinput⟩
        cases hdata : decodeInput a.input bs with
        | error text =>
          refine .undecoded t bs text hbs hdata ?_
          rw [convert, ht]
          dsimp only
          rw [hname, hinput]
          dsimp only
          rw [hdata]
          exact ends_complain _ _ _
        | ok data =>
          cases hw : (Conversion.decodeWebKey (some data) t.tag a.kid).result with
          | ok w =>
            obtain ⟨doc, hdoc⟩ := Conversion.exists_published_of_decodeWebKey hw
            obtain ⟨text, htext, hends⟩ := ends_conclude_of_ok colours a.format hdoc
            refine .converted t bs data w text hbs hdata hw htext ?_
            rw [convert_of_gives hbs hdata, hw]
            exact hends
          | error e =>
            obtain ⟨e', rfl, -⟩ | hlong := Conversion.failure_of_decodeWebKey hw
            · refine .unconverted t bs data _ hbs hdata hw ?_
              rw [convert_of_gives hbs hdata, hw]
              exact ends_conclude_of_error (Or.inl ⟨e', rfl⟩)
            · exact .longArc t bs data hbs hdata hlong (convert_of_longArc hbs hdata hlong)

/-! ## Creating -/

/-- A session at the start of a command, under settings that have been read. -/
structure Fresh (v : Settings) (s : Session) : Prop where
  settings : s.settings? = some v
  unconfigured : s.configured? = none
  registry : s.registry = [("local", .inMemory)]
  stores : s.stores = []
  known : v.derForm.Known

/-- Asked for a key pair of one of these types, the generator draws one, and it is a key of its
curve. RSA keys have sizes that it does not take. -/
def Draws (v : Settings) (t : KeyType) (e : Entropy) : Prop :=
  t.family = .ec ∨ t.family = .bls ∨ (t.family = .rsa ∧ v.rsaBits < 2 ^ 32) →
    ∃ k, (e.key v.rsaBits t).1 = .ok k ∧ k.Sound

theorem key_of_tooLarge {v : Settings} {t : KeyType} (ht : t.family = .rsa)
    (hbits : 2 ^ 32 ≤ v.rsaBits) (e : Entropy) : (e.key v.rsaBits t).1 = .error .unrepresentable := by
  have hfew : ¬(v.rsaBits : Int) < Entropy.fewestRsaBits := by
    unfold Entropy.fewestRsaBits
    omega
  have hbound : Entropy.sizeBound ≤ v.rsaBits := by
    unfold Entropy.sizeBound
    omega
  have hkey : (e.rsaKey v.rsaBits).1 = .error .unrepresentable := by
    rw [Entropy.rsaKey, if_neg hfew, if_pos hbound]
    rfl
  unfold Entropy.key
  rw [ht]
  dsimp only
  rw [hkey]
  rfl

/-- The session with the local store in use, as a creation finds it. -/
theorem configured_of_fresh {v : Settings} (hs : Fresh v s) (hbackend : lowercase v.backend = "local") :
    ∃ s', s.run Session.configuredStore = (.ok 0, s') ∧
      s'.storeAt 0 = .inMemory { rsaBits := v.rsaBits } ∧ s'.settings? = some v ∧
      s'.entropy = s.entropy := by
  have hconsult := Session.consult_of_settings? hs.settings
  cases configuring s with
  | kept position hconfigured hrun =>
    rw [hs.unconfigured] at hconfigured
    cases hconfigured
  | unreadable e hnone hsettings hrun =>
    rw [hconsult] at hsettings
    cases hsettings
  | unknown v' hnone hsettings hkind hrun =>
    rw [hconsult] at hsettings
    cases hsettings
    rw [hs.registry, hbackend] at hkind
    cases hkind
  | made v' kind hnone hsettings hkind hrun =>
    obtain ⟨journal, hrun⟩ := hrun
    rw [hconsult] at hsettings hrun
    cases hsettings
    rw [hs.registry, hbackend] at hkind
    cases hkind
    rw [hs.stores] at hrun
    exact ⟨_, hrun, rfl, hs.settings, rfl⟩

/-- Under another backend there is no store to create a key in. -/
theorem unknown_of_fresh {v : Settings} (hs : Fresh v s) (hbackend : lowercase v.backend ≠ "local") :
    ∃ fault, (s.run Session.configuredStore).1 = .error (.store fault) := by
  have hconsult := Session.consult_of_settings? hs.settings
  cases configuring s with
  | kept position hconfigured hrun =>
    rw [hs.unconfigured] at hconfigured
    cases hconfigured
  | unreadable e hnone hsettings hrun =>
    rw [hconsult] at hsettings
    cases hsettings
  | unknown v' hnone hsettings hkind hrun => exact ⟨_, by rw [hrun]⟩
  | made v' kind hnone hsettings hkind hrun =>
    rw [hconsult] at hsettings
    cases hsettings
    rw [hs.registry] at hkind
    simp [List.lookup, beq_false_of_ne hbackend] at hkind

theorem create_of_configured {a : CreateArguments} {t : KeyType} {position : Nat} {s' : Session}
    (ht : KeyType.ofTag? a.keyType = some t)
    (hrun : s.run Session.configuredStore = (.ok position, s')) :
    (create colours a s).1 = conclude colours a.format
      ((s'.createIn position t).1.result.bind fun r =>
        (Conversion.decodeWebKey r.2 t.tag r.1).result) := by
  rw [← (Session.createWebKey_eq position s').2, create, ht]
  dsimp only
  rw [hrun]
  rfl

theorem create_of_tooLarge {v : Settings} {a : CreateArguments} {t : KeyType} (hs : Fresh v s)
    (ht : KeyType.ofTag? a.keyType = some t) (hbackend : lowercase v.backend = "local")
    (hfamily : t.family = .rsa) (hbits : 2 ^ 32 ≤ v.rsaBits) :
    (create colours a s).1 = .error .unrepresentable := by
  obtain ⟨s', hrun, hstore, -, -⟩ := configured_of_fresh hs hbackend
  have hnone : (s'.drawn v.rsaBits t).1 = .error .unrepresentable :=
    key_of_tooLarge hfamily hbits s'.entropy
  have hcreate : (s'.createIn 0 t).1.result = .error .unrepresentable := by
    obtain ⟨e, he, -, hfails | ⟨k, hk, -⟩⟩ | ⟨k, bs, hk, -⟩ := Session.createIn_cases hstore t
    · rw [hnone] at hfails
      cases hfails
      exact he
    · rw [hnone] at hk
      cases hk
    · rw [hnone] at hk
      cases hk
  rw [create_of_configured ht hrun, hcreate]
  rfl

/-- A key pair that is drawn is created, read and printed. -/
theorem create_of_drawn {v : Settings} {a : CreateArguments} {t : KeyType} {k : Key}
    (hs : Fresh v s) (ht : KeyType.ofTag? a.keyType = some t)
    (hbackend : lowercase v.backend = "local") (hk : (s.entropy.key v.rsaBits t).1 = .ok k)
    (hsound : k.Sound) : ∃ text, Ends .ok (.text text) (create colours a s).1 := by
  obtain ⟨s', hrun, hstore, hsettings, hentropy⟩ := configured_of_fresh hs hbackend
  have hforms : s'.FormsKnown := by
    intro v' hv'
    rw [hsettings] at hv'
    cases hv'
    exact hs.known
  have hvalid : s'.SettingsValid := ⟨v, by rw [Session.consult_of_settings? hsettings]⟩
  rw [← hentropy] at hk
  obtain ⟨bs, hcreate, hread⟩ := Session.createIn_eq_ok hstore hforms hvalid hk hsound
  obtain ⟨k', hw, -⟩ := hread.webKey (Entropy.new_of_key hk).family_ne
    (some (s'.drawn v.rsaBits t).2)
  obtain ⟨doc, hdoc⟩ := Conversion.exists_published_of_decodeWebKey hw
  obtain ⟨text, -, hends⟩ := ends_conclude_of_ok colours a.format hdoc
  refine ⟨text, ?_⟩
  rw [create_of_configured ht hrun, hcreate]
  show Ends _ _ (conclude colours a.format (Conversion.decodeWebKey _ t.tag _).result)
  rw [hw]
  exact hends

/-- What a creation comes to. -/
inductive Creating (v : Settings) (a : CreateArguments) (r : Result Outcome) : Prop
  | unregistered (ht : KeyType.ofTag? a.keyType = none) (h : Ends .misuse .nothing r)
  | failed (h : Ends .failed .nothing r)
  | tooLarge (t : KeyType) (ht : KeyType.ofTag? a.keyType = some t) (hfamily : t.family = .rsa)
      (hbackend : lowercase v.backend = "local") (hbits : 2 ^ 32 ≤ v.rsaBits)
      (h : r = .error .unrepresentable)
  | created (text : String) (h : Ends .ok (.text text) r)

/-- Every outcome of `create` from a fresh session is one of the listed ones. -/
theorem creating {v : Settings} {a : CreateArguments} (hs : Fresh v s)
    (hdraws : ∀ t, KeyType.ofTag? a.keyType = some t → Draws v t s.entropy) (colours : Bool) :
    Creating v a (create colours a s).1 := by
  cases ht : KeyType.ofTag? a.keyType with
  | none =>
    refine .unregistered ht ?_
    rw [create, ht]
    exact ends_complain _ _ _
  | some t =>
    by_cases hbackend : lowercase v.backend = "local"
    · cases hfamily : t.family with
      | symmetric =>
        obtain ⟨s', hrun, hstore, -, -⟩ := configured_of_fresh hs hbackend
        refine .failed ?_
        rw [create_of_configured ht hrun, Session.createIn_of_symmetric hstore hfamily]
        exact ends_conclude_of_error (Or.inr ⟨_, rfl⟩)
      | okp =>
        obtain ⟨k, hk⟩ := Entropy.exists_key_of_okp hfamily v.rsaBits s.entropy
        have hsound : k.Sound := Entropy.sound_of_key hk (by simp [hfamily])
        obtain ⟨text, hends⟩ := create_of_drawn hs ht hbackend hk hsound
        exact .created text hends
      | ec | bls =>
        obtain ⟨k, hk, hsound⟩ := hdraws t ht (by simp [hfamily])
        obtain ⟨text, hends⟩ := create_of_drawn hs ht hbackend hk hsound
        exact .created text hends
      | rsa =>
        obtain hbits | hbits := Nat.lt_or_ge v.rsaBits (2 ^ 32)
        · obtain ⟨k, hk, hsound⟩ := hdraws t ht (Or.inr (Or.inr ⟨hfamily, hbits⟩))
          obtain ⟨text, hends⟩ := create_of_drawn hs ht hbackend hk hsound
          exact .created text hends
        · exact .tooLarge t ht hfamily hbackend hbits (create_of_tooLarge hs ht hbackend hfamily hbits)
    · obtain ⟨fault, hfault⟩ := unknown_of_fresh hs hbackend
      refine .failed ?_
      rw [create, ht]
      dsimp only
      cases hrun : s.run Session.configuredStore with
      | mk position s' =>
        rw [hrun] at hfault
        cases hfault
        exact ends_complain _ _ _

/-! ## Running -/

/-- The session in which a run begins. -/
def Invocation.start (i : Invocation) : Session :=
  { environment := i.environment, assignments := i.assignments, entropy := i.entropy }

theorem consult_of_none {v : Settings} (hnone : s.settings? = none) (hv : s.consult.1 = .ok v) :
    s.consult = (.ok v, { s with settings? := some v }) ∧ ∃ sources, Settings.ofSources sources = .ok v := by
  unfold Session.consult at hv ⊢
  rw [hnone] at hv ⊢
  dsimp only at hv ⊢
  cases hsources : Settings.ofSources
      [Settings.ofEnvironment s.environment, Settings.ofEnvironment s.assignments] with
  | error faults =>
    rw [hsources] at hv
    cases hv
  | ok v' =>
    rw [hsources] at hv
    cases hv
    exact ⟨rfl, _, hsources⟩

/-- Under settings that can be read the journal is set up, and a command finds a fresh session. -/
theorem runWith_of_command {i : Invocation} {a : Arguments} {v : Settings}
    (hv : i.start.consult.1 = .ok v) :
    (a.command = none → Ends .ok .help (runWith i a)) ∧
    ∀ command, a.command = some command → ∃ colours s entries, Fresh v s ∧ s.entropy = i.entropy ∧
      runWith i a = (perform colours i.input command s).1.map fun o => { o with entries := entries } := by
  obtain ⟨hconsult, sources, hsources⟩ := consult_of_none rfl hv
  have hlevel : ∃ l, Log.Level.ofName?
      ((if a.general.verbose then some "DEBUG" else none).getD v.logLevel) = some l := by
    cases a.general.verbose with
    | false => exact Settings.exists_level hsources
    | true => exact ⟨_, show Log.Level.ofName? "DEBUG" = _ from rfl⟩
  obtain ⟨l, hl⟩ := hlevel
  have hsetup : i.start.setUpJournal none (if a.general.verbose then some "DEBUG" else none) =
      (.ok ⟨l, v.logJson⟩,
        { i.start with settings? := some v, journal := { setup? := some ⟨l, v.logJson⟩ } }) := by
    rw [Session.setUpJournal, hconsult]
    dsimp only
    rw [hl]
    rfl
  unfold Invocation.start at hsetup
  unfold runWith
  dsimp only at hsetup ⊢
  rw [hsetup]
  constructor
  · intro hnone
    rw [hnone]
    exact ⟨_, rfl, rfl, rfl⟩
  · intro command hcommand
    rw [hcommand]
    exact ⟨_, _, _, ⟨rfl, rfl, rfl, rfl, Settings.known_of_ofSources hsources⟩, rfl, rfl⟩

theorem run_of_read {i : Invocation} {a : Arguments} (hread : Arguments.read i.arguments = .ok a) :
    run i = runWith i a := by
  rw [run, hread]

theorem Ends.with_entries {code : ExitCode} {output : Output} {r : Result Outcome}
    (h : Ends code output r) (entries : List Log.Entry) :
    Ends code output (r.map fun o => { o with entries := entries }) := by
  obtain ⟨o, rfl, hcode, houtput⟩ := h
  exact ⟨_, rfl, hcode, houtput⟩

theorem Converting.with_entries {a : ConvertArguments} {r : Result Outcome}
    (h : Converting input a r) (entries : List Log.Entry) :
    Converting input a (r.map fun o => { o with entries := entries }) := by
  cases h with
  | unregistered ht h => exact .unregistered ht (h.with_entries entries)
  | impossible t ht hname h => exact .impossible t ht hname (by rw [h]; rfl)
  | unreadable t fault ht hinput h => exact .unreadable t fault ht hinput (h.with_entries entries)
  | undecoded t bs text hbs hdata h => exact .undecoded t bs text hbs hdata (h.with_entries entries)
  | longArc t bs data hbs hdata hlong h => exact .longArc t bs data hbs hdata hlong (by rw [h]; rfl)
  | unconverted t bs data e hbs hdata he h =>
    exact .unconverted t bs data e hbs hdata he (h.with_entries entries)
  | converted t bs data w text hbs hdata hw htext h =>
    exact .converted t bs data w text hbs hdata hw htext (h.with_entries entries)

theorem Creating.with_entries {v : Settings} {a : CreateArguments} {r : Result Outcome}
    (h : Creating v a r) (entries : List Log.Entry) :
    Creating v a (r.map fun o => { o with entries := entries }) := by
  cases h with
  | unregistered ht h => exact .unregistered ht (h.with_entries entries)
  | failed h => exact .failed (h.with_entries entries)
  | tooLarge t ht hfamily hbackend hbits h =>
    exact .tooLarge t ht hfamily hbackend hbits (by rw [h]; rfl)
  | created text h => exact .created text (h.with_entries entries)

/-- What a run comes to: it stops at the arguments, prints what it is asked for, or goes as the
command goes. -/
inductive Running (i : Invocation) (v : Settings) (r : Result Outcome) : Prop
  | misuse (hread : Arguments.read i.arguments = .error .misuse) (h : Ends .misuse .nothing r)
  | printed (output : Output) (hread : ∀ g command, Arguments.read i.arguments = .ok ⟨g, some command⟩ →
        ∃ a, command = .types a) (h : Ends .ok output r)
  | converts (g : GeneralArguments) (a : ConvertArguments)
      (hread : Arguments.read i.arguments = .ok ⟨g, some (.convert a)⟩) (h : Converting i.input a r)
  | creates (g : GeneralArguments) (a : CreateArguments)
      (hread : Arguments.read i.arguments = .ok ⟨g, some (.create a)⟩) (h : Creating v a r)

/-- The generator does its work for whatever key pair a run asks for. -/
def Invocation.Draws (i : Invocation) (v : Settings) : Prop :=
  ∀ g a t, Arguments.read i.arguments = .ok ⟨g, some (.create a)⟩ →
    KeyType.ofTag? a.keyType = some t → CommandLine.Draws v t i.entropy

/-- Every outcome of a whole run whose settings are valid. -/
theorem running {i : Invocation} {v : Settings} (hv : i.start.consult.1 = .ok v)
    (hdraws : i.Draws v) : Running i v (run i) := by
  cases hread : Arguments.read i.arguments with
  | error stop =>
    cases stop with
    | help =>
      refine .printed .help ?_ ?_
      · intro g command hcommand
        rw [hread] at hcommand
        cases hcommand
      · rw [run, hread]
        exact ⟨_, rfl, rfl, rfl⟩
    | misuse =>
      refine .misuse hread ?_
      rw [run, hread]
      exact ⟨_, rfl, rfl, rfl⟩
  | ok whole =>
    obtain ⟨general, command?⟩ := whole
    obtain ⟨hnone, hsome⟩ := runWith_of_command (a := ⟨general, command?⟩) hv
    rw [run_of_read hread]
    cases command? with
    | none =>
      refine .printed .help ?_ (hnone rfl)
      intro g command hcommand
      rw [hread] at hcommand
      cases hcommand
    | some command =>
      obtain ⟨colours, s, entries, hs, hentropy, hrun⟩ := hsome command rfl
      rw [hrun]
      cases command with
      | types a =>
        have hlist : ∃ text, Ends .ok (.text text) (.ok (listTypes colours a)) := by
          unfold listTypes
          cases a.format <;> exact ⟨_, _, rfl, rfl, rfl⟩
        obtain ⟨text, hends⟩ := hlist
        refine .printed _ ?_ (hends.with_entries entries)
        intro g command hcommand
        rw [hread] at hcommand
        cases hcommand
        exact ⟨a, rfl⟩
      | convert a =>
        exact .converts general a hread ((converting colours i.input a s).with_entries entries)
      | create a =>
        have hgenerates (t : KeyType) (ht : KeyType.ofTag? a.keyType = some t) :
            CommandLine.Draws v t s.entropy := by
          rw [hentropy]
          exact hdraws general a t hread ht
        exact .creates general a hread ((creating hs hgenerates colours).with_entries entries)

/-! ## The contract -/

/-- A run ends without an exit code: for a file name that no file can have, for DER with an arc that
is too long to write, and for RSA keys of a size that the generator does not take. -/
inductive Invocation.Escapes (i : Invocation) (v : Settings) : Failure → Prop
  | fileName (g : GeneralArguments) (a : ConvertArguments) (t : KeyType)
      (hread : Arguments.read i.arguments = .ok ⟨g, some (.convert a)⟩)
      (ht : KeyType.ofTag? a.keyType = some t) (hname : a.source.isPossible = false) :
      Escapes i v (.refused .fileName)
  | longArc (g : GeneralArguments) (a : ConvertArguments) (t : KeyType) (bs data : Bytes)
      (hread : Arguments.read i.arguments = .ok ⟨g, some (.convert a)⟩)
      (hbs : Gives i.input a t bs) (hdata : decodeInput a.input bs = .ok data)
      (hlong : Conversion.LongArcUnder t.tag (some data)) : Escapes i v (.refused .arc)
  | tooLarge (g : GeneralArguments) (a : CreateArguments) (t : KeyType)
      (hread : Arguments.read i.arguments = .ok ⟨g, some (.create a)⟩)
      (ht : KeyType.ofTag? a.keyType = some t) (hbackend : lowercase v.backend = "local")
      (hfamily : t.family = .rsa) (hbits : 2 ^ 32 ≤ v.rsaBits) : Escapes i v .unrepresentable

/-- The input is the text of bytes that are read as this web key. -/
def Invocation.Converts (i : Invocation) (a : ConvertArguments) (w : WebKey) : Prop :=
  ∃ t bs data, Gives i.input a t bs ∧ decodeInput a.input bs = .ok data ∧
    (Conversion.decodeWebKey (some data) t.tag a.kid).result = .ok w

/-- What the exit code of a conversion says of its input, and what is printed. -/
structure Invocation.Answers (i : Invocation) (a : ConvertArguments) (o : Outcome) : Prop where
  success : o.code = .ok ↔ ∃ w, i.Converts a w
  printed : ∀ w, i.Converts a w → ∃ text, render a.format w = .ok text ∧ o.output = .text text
  failed : o.code = .failed ↔ ∃ t bs, Gives i.input a t bs ∧
    ∀ data, decodeInput a.input bs = .ok data →
      ∃ e, (Conversion.decodeWebKey (some data) t.tag a.kid).result = .error e
  unreadable : o.code = .unreadable ↔
    ∃ t fault, KeyType.ofTag? a.keyType = some t ∧ i.input a.source = .error fault
  misuse : o.code = .misuse ↔ KeyType.ofTag? a.keyType = none

/-- A run leaves without an exit code exactly for the listed failures. -/
theorem escapes_iff {i : Invocation} {v : Settings} (hv : i.start.consult.1 = .ok v)
    (hdraws : i.Draws v) (e : Failure) : run i = .error e ↔ i.Escapes v e := by
  constructor
  · intro he
    have hends {code : ExitCode} {output : Output} (h : Ends code output (run i)) :
        i.Escapes v e := by
      obtain ⟨o, ho, -⟩ := h
      rw [he] at ho
      cases ho
    cases running hv hdraws with
    | misuse hread h | printed output hread h => exact hends h
    | converts g a hread h =>
      cases h with
      | unregistered ht h | unreadable t fault ht hinput h | undecoded t bs text hbs hdata h
      | unconverted t bs data e hbs hdata he h | converted t bs data w text hbs hdata hw htext h =>
        exact hends h
      | impossible t ht hname h =>
        rw [he] at h
        cases h
        exact .fileName g a t hread ht hname
      | longArc t bs data hbs hdata hlong h =>
        rw [he] at h
        cases h
        exact .longArc g a t bs data hread hbs hdata hlong
    | creates g a hread h =>
      cases h with
      | unregistered ht h | failed h | created text h => exact hends h
      | tooLarge t ht hfamily hbackend hbits h =>
        rw [he] at h
        cases h
        exact .tooLarge g a t hread ht hbackend hfamily hbits
  · intro h
    cases h with
    | fileName g a t hread ht hname =>
      obtain ⟨colours, s, entries, -, -, hrun⟩ :=
        (runWith_of_command (a := ⟨g, some (.convert a)⟩) hv).2 _ rfl
      rw [run_of_read hread, hrun, perform, convert_of_impossible ht hname]
      rfl
    | longArc g a t bs data hread hbs hdata hlong =>
      obtain ⟨colours, s, entries, -, -, hrun⟩ :=
        (runWith_of_command (a := ⟨g, some (.convert a)⟩) hv).2 _ rfl
      rw [run_of_read hread, hrun, perform, convert_of_longArc hbs hdata hlong]
      rfl
    | tooLarge g a t hread ht hbackend hfamily hbits =>
      obtain ⟨colours, s, entries, hs, -, hrun⟩ :=
        (runWith_of_command (a := ⟨g, some (.create a)⟩) hv).2 _ rfl
      rw [run_of_read hread, hrun, perform, create_of_tooLarge hs ht hbackend hfamily hbits]
      rfl

theorem answers_of_converting {i : Invocation} {a : ConvertArguments} {o : Outcome}
    (h : Converting i.input a (.ok o)) : i.Answers a o := by
  cases h with
  | unregistered ht h =>
    obtain ⟨o, ho, hcode, -⟩ := h
    cases ho
    constructor <;> simp [Invocation.Converts, Gives, ht, hcode]
  | impossible t ht hname h | longArc t bs data hbs hdata hlong h => cases h
  | unreadable t fault ht hinput h =>
    obtain ⟨o, ho, hcode, -⟩ := h
    cases ho
    constructor <;> simp [Invocation.Converts, Gives, ht, hinput, hcode]
  | undecoded t bs text hbs hdata h =>
    obtain ⟨o, ho, hcode, -⟩ := h
    cases ho
    obtain ⟨ht, hname, hinput⟩ := hbs
    constructor <;> simp [Invocation.Converts, Gives, ht, hname, hinput, hdata, hcode]
  | unconverted t bs data e hbs hdata he h =>
    obtain ⟨o, ho, hcode, -⟩ := h
    cases ho
    obtain ⟨ht, hname, hinput⟩ := hbs
    constructor <;> simp [Invocation.Converts, Gives, ht, hname, hinput, hdata, he, hcode]
  | converted t bs data w text hbs hdata hw htext h =>
    obtain ⟨o, ho, hcode, houtput⟩ := h
    cases ho
    obtain ⟨ht, hname, hinput⟩ := hbs
    constructor <;> simp [Invocation.Converts, Gives, ht, hname, hinput, hdata, hw, hcode, htext, houtput]

/-- Anything but success goes without output. -/
theorem output_of_running {i : Invocation} {v : Settings} {o : Outcome}
    (h : Running i v (.ok o)) (hcode : o.code ≠ .ok) : o.output = .nothing := by
  have hnothing {code : ExitCode} {output : Output} (hends : Ends code output (.ok o))
      (hsilent : code = .ok ∨ output = .nothing) : o.output = .nothing := by
    obtain ⟨o', ho, rfl, rfl⟩ := hends
    cases ho
    exact hsilent.resolve_left hcode
  cases h with
  | misuse hread h => exact hnothing h (Or.inr rfl)
  | printed output hread h => exact hnothing h (Or.inl rfl)
  | converts g a hread h =>
    cases h with
    | unregistered ht h | unreadable t fault ht hinput h | undecoded t bs text hbs hdata h
    | unconverted t bs data e hbs hdata he h => exact hnothing h (Or.inr rfl)
    | converted t bs data w text hbs hdata hw htext h => exact hnothing h (Or.inl rfl)
    | impossible t ht hname h | longArc t bs data hbs hdata hlong h => cases h
  | creates g a hread h =>
    cases h with
    | unregistered ht h | failed h => exact hnothing h (Or.inr rfl)
    | created text h => exact hnothing h (Or.inl rfl)
    | tooLarge t ht hfamily hbackend hbits h => cases h

/-- Under settings that can be read, and with a generator that does its work, every run ends with
one of four exit codes, but for three ways in which it escapes. Anything but zero goes without
output. Bad arguments are a misuse, and so is a conversion for a type that is not registered; any
other conversion has the exit code that its input deserves, and prints the web key that it is read
as. -/
theorem exit_codes (i : Invocation) {v : Settings} (hv : i.start.consult.1 = .ok v)
    (hdraws : i.Draws v) :
    (∀ e, run i = .error e ↔ i.Escapes v e) ∧
    (∀ o, run i = .ok o → o.code.number ∈ [0, 1, 2, 3] ∧ (o.code ≠ .ok → o.output = .nothing)) ∧
    (Arguments.read i.arguments = .error .misuse → Ends .misuse .nothing (run i)) ∧
    ∀ g a, Arguments.read i.arguments = .ok ⟨g, some (.convert a)⟩ →
      ∀ o, run i = .ok o → i.Answers a o := by
  have hrunning := running hv hdraws
  refine ⟨escapes_iff hv hdraws, fun o ho => ⟨?_, fun hcode => ?_⟩, fun hread => ?_,
    fun g a hread o ho => ?_⟩
  · cases o.code <;> decide
  · rw [ho] at hrunning
    exact output_of_running hrunning hcode
  · rw [run, hread]
    exact ⟨_, rfl, rfl, rfl⟩
  · rw [ho] at hrunning
    cases hrunning with
    | misuse hread' h =>
      rw [hread] at hread'
      cases hread'
    | printed output hread' h =>
      obtain ⟨a', ha'⟩ := hread' g _ hread
      cases ha'
    | converts g' a' hread' h =>
      rw [hread] at hread'
      cases hread'
      exact answers_of_converting h
    | creates g' a' hread' h =>
      rw [hread] at hread'
      cases hread'

/-- A key of 64 digits, all zero. -/
theorem zero_key_converted :
    let i : Invocation :=
      { arguments := ["convert", "ED25519", "--input-format=hex"]
        input := fun _ => .ok (List.replicate 64 48)
        correlation := ""
        entropy := { seed := [] } }
    let key : Key := .okp { curve := .ed25519, x := List.replicate 32 0 }
    ∃ o text, run i = .ok o ∧ o.code.number = 0 ∧ o.output = .text text ∧
      render .json ⟨key, "OKP", some "Ed25519", none, none, none⟩ = .ok text := by
  intro i key
  have hread : Arguments.read i.arguments =
      .ok ⟨{}, some (.convert { keyType := "ED25519", input := .hex })⟩ := rfl
  have hgives : Gives i.input { keyType := "ED25519", input := .hex } .ed25519
      (List.replicate 64 48) := ⟨KeyType.ofTag?_tag .ed25519, rfl, rfl⟩
  have hdata : decodeInput .hex (List.replicate 64 48) = .ok (List.replicate 32 0) := rfl
  have hw : (Conversion.decodeWebKey (some (List.replicate 32 0)) "ED25519").result =
      .ok ⟨key, "OKP", some "Ed25519", none, none, none⟩ := rfl
  obtain ⟨hescapes, hends, -, hanswers⟩ := exit_codes i rfl fun g a t hcreate => by
    rw [hread] at hcreate
    cases hcreate
  cases hrun : run i with
  | error e =>
    cases (hescapes e).mp hrun with
    | fileName g a t hread' ht hname =>
      rw [hread] at hread'
      cases hread'
      cases hname
    | longArc g a t bs data hread' hbs hdata' hlong =>
      -- A raw type does not read DER.
      rw [hread] at hread'
      cases hread'
      obtain rfl := Option.some.inj (hgives.1.symm.trans hbs.1)
      obtain ⟨t, -, ht, hlayout, -⟩ := hlong
      obtain rfl := Option.some.inj ((KeyType.ofTag?_tag .ed25519).symm.trans ht)
      cases hlayout
    | tooLarge g a t hread' ht hbackend hfamily hbits =>
      rw [hread] at hread'
      cases hread'
  | ok o =>
    have ho := hanswers _ _ hread o hrun
    have hconverts : i.Converts { keyType := "ED25519", input := .hex } _ :=
      ⟨.ed25519, _, _, hgives, hdata, hw⟩
    obtain ⟨text, htext, houtput⟩ := ho.printed _ hconverts
    refine ⟨o, text, rfl, ?_, houtput, htext⟩
    rw [ho.success.mpr ⟨_, hconverts⟩]
    rfl

/-- The conversion of a P-256 key in DER, read from the standard input. -/
def p256Conversion (bs : Bytes) : Invocation where
  arguments := ["convert", "ECDSAP256DER"]
  input := fun _ => .ok bs
  correlation := ""
  entropy := { seed := [] }

theorem run_p256Conversion_of_longArc {bs : Bytes} (h : PublicKeyInfo.HasLongArc bs) :
    run (p256Conversion bs) = .error (.refused .arc) := by
  have hread : Arguments.read (p256Conversion bs).arguments =
      .ok ⟨{}, some (.convert { keyType := "ECDSAP256DER" })⟩ := rfl
  refine (escapes_iff rfl ?_ _).mpr (.longArc _ _ .p256Der bs bs hread
    ⟨KeyType.ofTag?_tag .p256Der, rfl, rfl⟩ rfl
    ⟨.p256Der, bs, KeyType.ofTag?_tag .p256Der, rfl, rfl, h⟩)
  intro g a t hcreate
  rw [hread] at hcreate
  cases hcreate

/-- The arc 10 ^ 4300, the smallest that is too long, leaves a run without an exit code, although
all settings are as they are by default. -/
theorem long_arc_escapes :
    let i := p256Conversion (PublicKeyInfo.framed (Der.encode Der.objectIdTag
      (ObjectId.base128 (10 ^ Text.longestNumeral + 80))) [0])
    i.start.consult.1 = .ok {} ∧ ∀ o, run i ≠ .ok o := by
  have hdigits : (10 ^ Text.longestNumeral + 80) / 128 < 128 ^ 2040 := by decide +kernel
  have hlong := PublicKeyInfo.hasLongArc_base128 (Nat.le_refl _) hdigits (by decide)
  refine ⟨rfl, fun o ho => ?_⟩
  rw [run_p256Conversion_of_longArc hlong] at ho
  cases ho

end CommandLine

end WebKeys
