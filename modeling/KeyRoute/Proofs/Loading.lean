-- Which texts are configurations, and what is said of the others. A text is judged in an order: it
-- has to be TOML and hold settings, then their service name has to be sound, then their log filter.
-- What stands beside the settings does not matter as long as it is TOML. A file is judged as its
-- text is. All this holds whoever reads the documents and the filters, if only no key comes twice
-- in a table; and where the reader of filters panics, so does the whole.
import KeyRoute.Config.File
import KeyRoute.Proofs.Decoding

namespace KeyRoute

/-! ## What is checked -/

namespace Config

/-- A service name, if there is one, has at least one character, and none of its characters is a
blank. -/
def NameSound (config : Config) : Prop :=
  ∀ name, config.serviceName = some name →
    name ≠ "" ∧ ∀ c ∈ name.toList, Text.isBlank c = false

theorem allBlank_iff {name : String} :
    Text.allBlank name = true ↔ ∀ c ∈ name.toList, Text.isBlank c = true :=
  List.all_eq_true

theorem anyBlank_iff {name : String} :
    Text.anyBlank name = true ↔ ∃ c ∈ name.toList, Text.isBlank c = true :=
  List.any_eq_true

/-- A name without blanks passes both tests for blanks, unless it is empty. -/
theorem unblank_iff {name : String} :
    (name ≠ "" ∧ ∀ c ∈ name.toList, Text.isBlank c = false) ↔
      ¬ Text.allBlank name = true ∧ ¬ Text.anyBlank name = true := by
  have hnone : (∀ c ∈ name.toList, Text.isBlank c = false) ↔ ¬ Text.anyBlank name = true := by
    simp [anyBlank_iff]
  rw [hnone]
  constructor
  · rintro ⟨hne, hany⟩
    exact ⟨fun hall => (Text.allBlank_cases hall).elim hne hany, hany⟩
  · rintro ⟨hall, hany⟩
    refine ⟨?_, hany⟩
    rintro rfl
    exact hall rfl

section

variable {config : Config} {fault : ConfigFault}

theorem checkName_ok_iff : checkName config.serviceName = .ok () ↔ config.NameSound := by
  unfold NameSound
  cases config.serviceName with
  | none => exact iff_of_true rfl nofun
  | some name =>
    simp only [Option.some.injEq, forall_eq', unblank_iff, checkName]
    split
    · rename_i hall
      exact ⟨nofun, fun h => absurd hall h.1⟩
    split
    · rename_i hany
      exact ⟨nofun, fun h => absurd hany h.2⟩
    · rename_i hall hany
      exact iff_of_true rfl ⟨hall, hany⟩

/-- The check of a name fails in two ways, with a name of blanks or with one that has a blank and
some other character. -/
theorem checkName_error_iff : checkName config.serviceName = .error fault ↔
    ∃ name, config.serviceName = some name ∧
      ((fault = .blankName ∧ ∀ c ∈ name.toList, Text.isBlank c = true) ∨
        (fault = .spacedName name ∧ (∃ c ∈ name.toList, Text.isBlank c = true) ∧
          ∃ c ∈ name.toList, Text.isBlank c = false)) := by
  cases config.serviceName with
  | none => exact ⟨nofun, nofun⟩
  | some name =>
    have hsome : (∃ c ∈ name.toList, Text.isBlank c = false) ↔ ¬ Text.allBlank name = true := by
      simp [allBlank_iff]
    simp only [Option.some.injEq, exists_eq_left', ← allBlank_iff, ← anyBlank_iff, hsome, checkName]
    split
    · rename_i hall
      refine ⟨fun h => .inl ⟨(Except.error.inj h).symm, hall⟩, ?_⟩
      rintro (⟨rfl, -⟩ | ⟨-, -, hnot⟩)
      · rfl
      · exact absurd hall hnot
    split
    · rename_i hall hany
      refine ⟨fun h => .inr ⟨(Except.error.inj h).symm, hany, hall⟩, ?_⟩
      rintro (⟨-, hnot⟩ | ⟨rfl, -, -⟩)
      · exact absurd hnot hall
      · rfl
    · rename_i hall hany
      refine ⟨nofun, ?_⟩
      rintro (⟨-, hnot⟩ | ⟨-, hnot, -⟩)
      · exact absurd hnot hall
      · exact absurd hnot hany

end

section

variable {F : Type} {readers : Readers F} {text : String} {config : Config}

/-- What cannot be decoded is told in two messages, whatever is wrong with it. -/
theorem chain_of_decode {fault : ConfigFault} (h : decode readers text = .error fault) :
    ∃ cause, fault.chain = ["Failed to parse TOML", cause] := by
  unfold decode at h
  split at h
  · cases h
    exact ⟨_, rfl⟩
  split at h
  · cases h
  split at h
  · cases h
    exact ⟨_, rfl⟩
  · cases h
    exact ⟨_, rfl⟩

theorem halt_of_filter {halt : Halt ConfigFault} (h : config.filter readers = .error halt) :
    halt = .panic ∨ ∃ reason, halt = .fault (.badLogLevel config.logLevel reason) := by
  obtain ⟨reason | _, -, rfl⟩ := mapError_error_iff.mp h
  · exact .inr ⟨reason, rfl⟩
  · exact .inl rfl

theorem parse_ok_iff (lawful : readers.Lawful) : parse readers text = .ok config ↔
    Holds readers text config ∧ config.NameSound ∧
      ∃ filter, config.filter readers = .ok filter := by
  unfold parse validate
  simp only [bind_ok_iff, mapError_ok_iff, decode_iff lawful, ← checkName_ok_iff]
  constructor
  · rintro ⟨_, hholds, _, ⟨⟨⟩, hname, filter, hfilter, -⟩, hsame⟩
    cases hsame
    exact ⟨hholds, hname, filter, hfilter⟩
  · rintro ⟨hholds, hname, filter, hfilter⟩
    exact ⟨config, hholds, (), ⟨(), hname, filter, hfilter, rfl⟩, rfl⟩

theorem parse_error_iff (lawful : readers.Lawful) {halt : Halt ConfigFault} :
    parse readers text = .error halt ↔
      (∃ fault, decode readers text = .error fault ∧ .fault fault = halt) ∨
      ∃ config, Holds readers text config ∧
        ((∃ fault, checkName config.serviceName = .error fault ∧ .fault fault = halt) ∨
          config.NameSound ∧ config.filter readers = .error halt) := by
  unfold parse validate
  simp only [bind_error_iff, bind_ok_iff, mapError_ok_iff, mapError_error_iff, decode_iff lawful,
    ← checkName_ok_iff]
  refine or_congr_right (exists_congr fun config => and_congr_right fun hholds => ?_)
  constructor
  · rintro ((hname | ⟨⟨⟩, hname, hfilter | ⟨_, _, h⟩⟩) | ⟨_, _, h⟩)
    · exact .inl hname
    · exact .inr ⟨hname, hfilter⟩
    · cases h
    · cases h
  · rintro (hname | ⟨hname, hfilter⟩)
    · exact .inl (.inl hname)
    · exact .inl (.inr ⟨(), hname, .inl hfilter⟩)

end

end Config

/-! ## Messages -/

/-- The messages of a failure, from the outermost to the first cause. A panic has none. -/
def ConfigFault.messages? {α : Type} : Except (Halt ConfigFault) α → Option (List String)
  | .error (.fault fault) => some fault.chain
  | _ => none

theorem ConfigFault.messages?_eq_some_iff {α : Type} {result : Except (Halt ConfigFault) α}
    {messages : List String} :
    messages? result = some messages ↔
      ∃ fault, result = .error (.fault fault) ∧ fault.chain = messages := by
  rcases result with (fault | _) | _
  · simp [messages?]
  · exact ⟨nofun, nofun⟩
  · exact ⟨nofun, nofun⟩

namespace Config

open ConfigFault (messages? messages?_eq_some_iff)

variable {F : Type} {readers : Readers F} {text : String} {config : Config}

/-- Why a text is refused, with what can be said of the text then. -/
theorem fault_cases (lawful : readers.Lawful) {fault : ConfigFault}
    (h : parse readers text = .error (.fault fault)) :
    ((∀ config, ¬ Holds readers text config) ∧
      ∃ cause, fault.chain = ["Failed to parse TOML", cause]) ∨
    (∃ config name, Holds readers text config ∧ config.serviceName = some name ∧
      fault = .blankName ∧ ∀ c ∈ name.toList, Text.isBlank c = true) ∨
    (∃ config name, Holds readers text config ∧ config.serviceName = some name ∧
      fault = .spacedName name ∧ (∃ c ∈ name.toList, Text.isBlank c = true) ∧
      ∃ c ∈ name.toList, Text.isBlank c = false) ∨
    ∃ config reason, Holds readers text config ∧ config.NameSound ∧
      fault = .badLogLevel config.logLevel reason := by
  rcases (parse_error_iff lawful).mp h with ⟨_, hdecode, hsame⟩ |
    ⟨config, hholds, ⟨_, hname, hsame⟩ | ⟨hname, hfilter⟩⟩
  · cases hsame
    refine .inl ⟨fun config hholds => ?_, chain_of_decode hdecode⟩
    rw [(decode_iff lawful).mpr hholds] at hdecode
    cases hdecode
  · cases hsame
    obtain ⟨name, hsome, ⟨rfl, hall⟩ | ⟨rfl, hany, hother⟩⟩ := checkName_error_iff.mp hname
    · exact .inr (.inl ⟨config, name, hholds, hsome, rfl, hall⟩)
    · exact .inr (.inr (.inl ⟨config, name, hholds, hsome, rfl, hany, hother⟩))
  · obtain hpanic | ⟨reason, hreason⟩ := halt_of_filter hfilter
    · cases hpanic
    · cases hreason
      exact .inr (.inr (.inr ⟨config, reason, hholds, hname, rfl⟩))

/-- If only the log filter is left to be judged, its judgement is that of the text. -/
theorem parse_of_nameSound (lawful : readers.Lawful) (hholds : Holds readers text config)
    (hname : config.NameSound) :
    parse readers text = (config.filter readers).map fun _ => config := by
  cases hfilter : config.filter readers with
  | ok filter => exact (parse_ok_iff lawful).mpr ⟨hholds, hname, filter, hfilter⟩
  | error halt => exact (parse_error_iff lawful).mpr (.inr ⟨config, hholds, .inr ⟨hname, hfilter⟩⟩)

theorem undecoded_iff (lawful : readers.Lawful) :
    (∃ cause, messages? (parse readers text) = some ["Failed to parse TOML", cause]) ↔
      ∀ config, ¬ Holds readers text config := by
  constructor
  · rintro ⟨cause, h⟩
    obtain ⟨fault, hparse, hchain⟩ := messages?_eq_some_iff.mp h
    rcases fault_cases lawful hparse with ⟨hnone, -⟩ | ⟨_, _, -, -, rfl, -⟩ |
      ⟨_, _, -, -, rfl, -⟩ | ⟨_, _, -, -, rfl⟩
    · exact hnone
    all_goals simp [ConfigFault.chain] at hchain
  · intro hnone
    -- Nothing is held, so only the decoding can have ended it.
    cases hparse : parse readers text with
    | ok config => exact absurd ((parse_ok_iff lawful).mp hparse).1 (hnone config)
    | error halt =>
      rcases (parse_error_iff lawful).mp hparse with ⟨fault, hdecode, rfl⟩ | ⟨config, hholds, -⟩
      · obtain ⟨cause, hchain⟩ := chain_of_decode hdecode
        exact ⟨cause, congrArg some hchain⟩
      · exact absurd hholds (hnone config)

theorem blank_iff (lawful : readers.Lawful) :
    messages? (parse readers text) = some ["router.service_name cannot be empty"] ↔
      ∃ config name, Holds readers text config ∧ config.serviceName = some name ∧
        ∀ c ∈ name.toList, Text.isBlank c = true := by
  rw [messages?_eq_some_iff]
  constructor
  · rintro ⟨fault, hparse, hchain⟩
    rcases fault_cases lawful hparse with ⟨-, _, htwo⟩ | ⟨config, name, hholds, hname, -, hall⟩ |
      ⟨_, name, -, -, rfl, -⟩ | ⟨_, _, -, -, rfl⟩
    · simp [htwo] at hchain
    · exact ⟨config, name, hholds, hname, hall⟩
    · simp [ConfigFault.chain, ← String.toList_inj] at hchain
    · simp [ConfigFault.chain, ← String.toList_inj] at hchain
  · rintro ⟨config, name, hholds, hname, hall⟩
    have hcheck := checkName_error_iff.mpr ⟨name, hname, .inl ⟨rfl, hall⟩⟩
    exact ⟨.blankName,
      (parse_error_iff lawful).mpr (.inr ⟨config, hholds, .inl ⟨_, hcheck, rfl⟩⟩), rfl⟩

theorem spaced_iff (lawful : readers.Lawful) {name : String} :
    messages? (parse readers text) =
        some ["router.service_name '" ++ name ++ "' cannot contain whitespace"] ↔
      ∃ config, Holds readers text config ∧ config.serviceName = some name ∧
        (∃ c ∈ name.toList, Text.isBlank c = true) ∧
        ∃ c ∈ name.toList, Text.isBlank c = false := by
  rw [messages?_eq_some_iff]
  constructor
  · rintro ⟨fault, hparse, hchain⟩
    rcases fault_cases lawful hparse with ⟨-, _, htwo⟩ | ⟨_, _, -, -, rfl, -⟩ |
      ⟨config, other, hholds, hname, rfl, hany, hother⟩ | ⟨_, _, -, -, rfl⟩
    · simp [htwo] at hchain
    · simp [ConfigFault.chain, ← String.toList_inj] at hchain
    · have hsame : other = name := by simpa [ConfigFault.chain, String.append_assoc] using hchain
      subst hsame
      exact ⟨config, hholds, hname, hany, hother⟩
    · simp [ConfigFault.chain, ← String.toList_inj] at hchain
  · rintro ⟨config, hholds, hname, hany, hother⟩
    have hcheck := checkName_error_iff.mpr ⟨name, hname, .inr ⟨rfl, hany, hother⟩⟩
    exact ⟨.spacedName name,
      (parse_error_iff lawful).mpr (.inr ⟨config, hholds, .inl ⟨_, hcheck, rfl⟩⟩), rfl⟩

/-- What is loaded from a file is what its text is parsed to; a failure names the file too, and only
a success leaves a line in the log. -/
theorem load_text {read : String → Except ReadFault String} {path : String}
    (h : read path = .ok text) :
    load readers read path =
      match parse readers text with
      | .ok config => (.ok config, [.configLoaded path])
      | .error halt => (.error (halt.map (.inFile path)), []) := by
  unfold load loadWith
  simp only [h]
  cases parse readers text <;> rfl

/-! ## The law -/

/-- A text is a configuration iff it holds one, with a service name that is sound, if there is one,
and a log filter that can be built; so the filter of a configuration that was read can be built. A
TOML document holds what its value at `router` gives, whatever stands beside it. Otherwise the first
thing that is wrong is told: that there is nothing to decode, that the name is blank, that it has
blanks beside other characters, or else what the filter comes to, be it a fault or a panic. A file
comes to what its text comes to: a configuration, with a line in the log, or the same messages below
one that names the file. -/
theorem a_text_is_judged_by_its_settings (lawful : readers.Lawful) (text : String) :
    (∀ config, parse readers text = .ok config ↔
      Holds readers text config ∧ config.NameSound ∧
        ∃ filter, config.filter readers = .ok filter) ∧
    (readers.IsDocument text → ∀ config, Holds readers text config ↔
      ∃ entries, readers.document text = some entries ∧ Decodes entries config) ∧
    ((∃ cause, messages? (parse readers text) = some ["Failed to parse TOML", cause]) ↔
      ∀ config, ¬ Holds readers text config) ∧
    (messages? (parse readers text) = some ["router.service_name cannot be empty"] ↔
      ∃ config name, Holds readers text config ∧ config.serviceName = some name ∧
        ∀ c ∈ name.toList, Text.isBlank c = true) ∧
    (∀ name, messages? (parse readers text) =
        some ["router.service_name '" ++ name ++ "' cannot contain whitespace"] ↔
      ∃ config, Holds readers text config ∧ config.serviceName = some name ∧
        (∃ c ∈ name.toList, Text.isBlank c = true) ∧
        ∃ c ∈ name.toList, Text.isBlank c = false) ∧
    (∀ config, Holds readers text config → config.NameSound →
      parse readers text = (config.filter readers).map fun _ => config) ∧
    ∀ (read : String → Except ReadFault String) (path : String), read path = .ok text →
      (∀ config, load readers read path = (.ok config, [.configLoaded path]) ↔
        parse readers text = .ok config) ∧
      (∀ messages, messages? (parse readers text) = some messages ↔
        messages? (load readers read path).1 =
            some (("Invalid router configuration in '" ++ path ++ "'") :: messages) ∧
          (load readers read path).2 = []) ∧
      (parse readers text = .error .panic ↔ load readers read path = (.error .panic, [])) := by
  refine ⟨fun _ => parse_ok_iff lawful, fun h _ => holds_of_isDocument h, undecoded_iff lawful,
    blank_iff lawful, fun _ => spaced_iff lawful, fun _ => parse_of_nameSound lawful, ?_⟩
  intro read path hread
  rw [load_text hread]
  rcases parse readers text with (fault | _) | config
  · simp [messages?, Halt.map, ConfigFault.chain]
  · simp [messages?, Halt.map]
  · simp [messages?]

/-- A file whose settings are sound, beside a table that is ignored. -/
theorem a_sound_file_is_loaded :
    let text := "[zone]\nlog_level = 1\n[router]\nservice_name = \"svc\"\nlog_level = \"debug\"\n"
    let config : Config := ⟨some "svc", true, "debug"⟩
    let read : String → Except ReadFault String := fun path =>
      if path = "/etc/router.toml" then .ok text else .error .missing
    Readers.standard.Lawful ∧ Readers.standard.IsDocument text ∧ Holds .standard text config ∧
      config.NameSound ∧ read "/etc/router.toml" = .ok text ∧
      (∃ entries, Readers.standard.document text = some entries ∧ Decodes entries config) ∧
      ((config.filter .standard).map fun _ => config) = .ok config ∧
      load .standard read "/etc/router.toml" =
        (.ok config, [.configLoaded "/etc/router.toml"]) := by
  intro text config read
  have hdocument : Readers.standard.IsDocument text := by
    have hpassed : (Toml.parse? text).map Toml.passOverEntries = some (.ok ()) := by decide +kernel
    obtain ⟨entries, hparse, hsound⟩ := Option.map_eq_some_iff.mp hpassed
    exact ⟨entries, hparse, (Toml.passOverEntries_iff entries).mp hsound⟩
  have hholds : Holds .standard text config :=
    (decode_iff Readers.standard_lawful).mp (by decide +kernel)
  have hname : config.NameSound := checkName_ok_iff.mp (by decide +kernel)
  have hread : read "/etc/router.toml" = .ok text := if_pos rfl
  have hparse : parse .standard text = .ok config := by decide +kernel
  obtain ⟨-, hgives, -, -, -, hfilter, hfiles⟩ :=
    a_text_is_judged_by_its_settings Readers.standard_lawful text
  exact ⟨Readers.standard_lawful, hdocument, hholds, hname, hread,
    (hgives hdocument config).mp hholds, (hfilter config hholds hname).symm.trans hparse,
    ((hfiles read "/etc/router.toml" hread).1 config).mpr hparse⟩

/-- Three texts that are judged by other rules. An array may hold more items than there are fields.
They are not looked at, so the text is a configuration even with digits missing there, and then it
is no TOML document. A blank in front of a log level shifts where it is cut up, and a cut through a
character is a panic, which is no error. And a key of more than eighty parts is not read, whatever
it is for. -/
theorem three_texts_go_by_other_rules :
    let items := "router = [\"s\", true, \"info\", 0x]"
    let torn := "[router]\nlog_level = \" é=info\"\n"
    let deep := "k" ++ String.join (List.replicate 80 ".k") ++ " = 1"
    (parse .standard items = .ok ⟨some "s", true, "info"⟩ ∧
      ¬ Readers.standard.IsDocument items) ∧
    parse .standard torn = .error .panic ∧ parse .standard deep = .error (.fault .notToml) := by
  intro items torn deep
  refine ⟨⟨by decide +kernel, ?_⟩, by decide +kernel, by decide +kernel⟩
  rintro ⟨entries, hparse, hsound⟩
  have hfault : (Toml.parse? items).map Toml.passOverEntries =
      some (.error (.overflow .integer)) := by decide +kernel
  rw [show Toml.parse? items = some entries from hparse, Option.map_some,
    (Toml.passOverEntries_iff entries).mpr hsound] at hfault
  cases hfault

end Config

end KeyRoute
