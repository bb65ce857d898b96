-- What a text is decoded to, told of the document as a whole. The settings are read entry by entry,
-- in the order of the keys, and the first fault ends it. As no key stands twice, this comes to the
-- value at each key. Numbers are read late, and behind the last setting of an array nobody looks
-- for them.
import KeyRoute.Config.Toml
import KeyRoute.Proofs.Keys
import KeyRoute.Proofs.RoundTrip

namespace KeyRoute

/-- Two steps that may fail come to an answer iff both do. -/
theorem bind_ok_iff {ε α β : Type} {first : Except ε α} {next : α → Except ε β} {b : β} :
    (first >>= next) = .ok b ↔ ∃ a, first = .ok a ∧ next a = .ok b := by
  cases first with
  | error e => exact ⟨nofun, fun ⟨_, h, _⟩ => nomatch h⟩
  | ok a => exact ⟨fun h => ⟨a, rfl, h⟩, fun ⟨_, h, h'⟩ => Except.ok.inj h ▸ h'⟩

theorem map_ok_iff {ε α β : Type} {first : Except ε α} {f : α → β} {b : β} :
    first.map f = .ok b ↔ ∃ a, first = .ok a ∧ f a = b := by
  cases first with
  | error e => exact ⟨nofun, fun ⟨_, h, _⟩ => nomatch h⟩
  | ok a => simp [Except.map]

/-- They fail if the first one does, or else the second. -/
theorem bind_error_iff {ε α β : Type} {first : Except ε α} {next : α → Except ε β} {e : ε} :
    (first >>= next) = .error e ↔
      first = .error e ∨ ∃ a, first = .ok a ∧ next a = .error e := by
  cases first with
  | error e' => exact ⟨fun h => .inl (by cases h; rfl), fun
    | .inl h => by cases h; rfl
    | .inr ⟨_, h, _⟩ => nomatch h⟩
  | ok a => exact ⟨fun h => .inr ⟨a, rfl, h⟩, fun
    | .inl h => nomatch h
    | .inr ⟨_, h, h'⟩ => Except.ok.inj h ▸ h'⟩

/-- A check, and a step after it that does not go by its answer. -/
theorem check_ok_iff {ε β : Type} {check : Except ε Unit} {next : Except ε β} {b : β} :
    (check >>= fun _ => next) = .ok b ↔ check = .ok () ∧ next = .ok b :=
  bind_ok_iff.trans ⟨fun ⟨_, h⟩ => h, fun h => ⟨(), h⟩⟩

theorem checked_ok_iff {ε β : Type} {check : Except ε Unit} {a b : β} :
    (check.map fun _ => a) = .ok b ↔ check = .ok () ∧ a = b :=
  map_ok_iff.trans ⟨fun ⟨_, h⟩ => h, fun h => ⟨(), h⟩⟩

namespace Toml

/-! ## What is passed over -/

/-- A value that is no number without one. -/
def HasValue : Toml → Prop
  | .unreadable _ => False
  | _ => True

/-- All numbers in a value have a value. -/
abbrev Sound : Toml → Prop := Throughout HasValue

theorem Simple.sound {v : Toml} (h : v.Simple) (hvalue : v.HasValue) : v.Sound :=
  (throughout_simple h).mpr hvalue

theorem sound_table {origin : Origin} {entries : Entries} :
    Sound (.table origin entries) ↔ ∀ e ∈ entries, e.2.Sound :=
  throughout_table.trans (and_iff_right trivial)

mutual

theorem passOver_iff (v : Toml) : v.passOver = .ok () ↔ v.Sound := by
  cases v with
  | unreadable kind => exact ⟨nofun, fun h => (h _ .self).elim⟩
  | array items =>
    rw [passOver, passOverItems_iff items, Sound, throughout_array]
    exact (and_iff_right trivial).symm
  | table origin entries =>
    rw [passOver, passOverEntries_iff entries, sound_table]
  | tables elements =>
    rw [passOver, passOverElements_iff elements, Sound, throughout_tables]
    exact (and_iff_right trivial).symm
  | string | integer | float | boolean | moment =>
    exact iff_of_true rfl (Simple.sound trivial trivial)

theorem passOverItems_iff (items : List Toml) :
    passOverItems items = .ok () ↔ ∀ item ∈ items, item.Sound := by
  cases items with
  | nil => exact iff_of_true rfl nofun
  | cons item items =>
    rw [passOverItems, check_ok_iff, List.forall_mem_cons, passOver_iff item,
      passOverItems_iff items]

theorem passOverEntries_iff (entries : Entries) :
    passOverEntries entries = .ok () ↔ ∀ e ∈ entries, e.2.Sound := by
  cases entries with
  | nil => exact iff_of_true rfl nofun
  | cons e entries =>
    obtain ⟨key, v⟩ := e
    rw [passOverEntries, check_ok_iff, List.forall_mem_cons, passOver_iff v,
      passOverEntries_iff entries]

theorem passOverElements_iff (elements : List Entries) :
    passOverElements elements = .ok () ↔
      ∀ entries ∈ elements, Sound (.table .header entries) := by
  cases elements with
  | nil => exact iff_of_true rfl nofun
  | cons entries elements =>
    rw [passOverElements, check_ok_iff, List.forall_mem_cons, passOverElements_iff elements,
      passOverEntries_iff entries, sound_table]

end

end Toml

/-! ## What is decoded -/

namespace Readers

variable {F : Type}

/-- What is relied on of the reader of documents: as TOML has it, in no table of a document a key is
defined twice. -/
structure Lawful (readers : Readers F) : Prop where
  keysOnce : ∀ {text entries}, readers.document text = some entries →
    Toml.KeysOnce (.table .header entries)

/-- A text is a TOML document: it has the form of one, and all numbers in it have a value. -/
def IsDocument (readers : Readers F) (text : String) : Prop :=
  ∃ entries, readers.document text = some entries ∧ ∀ e ∈ entries, e.2.Sound

theorem standard_lawful : standard.Lawful where
  keysOnce := Toml.keysOnce_of_parse?

end Readers

namespace Config

open Toml (Sound valueAt? throughout_array throughout_tables)

/-- The settings that are given by up to three values: each is of its kind or left out, and then it
has its default. -/
structure Settings (name? flag? level? : Option Toml) (config : Config) : Prop where
  serviceName : name? = config.serviceName.map .string
  metricsEnabled : flag?.getD (.boolean default.metricsEnabled) = .boolean config.metricsEnabled
  logLevel : level?.getD (.string default.logLevel) = .string config.logLevel

/-- The configuration that a value gives: a table by its keys, an array by position. A date or time
gives the default. -/
inductive Gives : Toml → Config → Prop
  | table {origin : Toml.Origin} {entries : Toml.Entries} {config : Config} :
      Settings (valueAt? entries serviceNameKey) (valueAt? entries metricsEnabledKey)
        (valueAt? entries logLevelKey) config → Gives (.table origin entries) config
  | array {items : List Toml} {config : Config} :
      Settings items[0]? items[1]? items[2]? config → Gives (.array items) config
  | tables {elements : List Toml.Entries} {config : Config} :
      Gives (.array (elements.map (.table .header))) config → Gives (.tables elements) config
  | moment : Gives .moment default

/-- The configuration that a document gives: that of its value at `router`, or the default. All that
stands at other keys is ignored. -/
def Decodes (entries : Toml.Entries) (config : Config) : Prop :=
  match valueAt? entries routerKey with
  | none => config = default
  | some value => Gives value config

/-- What is looked at of the value at `router`: all of it, but of an array only an item for each
field. -/
def looked : Toml → Toml
  | .array items => .array (items.take fields.length)
  | value => value

/-- A text holds a configuration: it has the form of a TOML document that gives it, and all numbers
that are looked at have a value. -/
def Holds {F : Type} (readers : Readers F) (text : String) (config : Config) : Prop :=
  ∃ entries, readers.document text = some entries ∧ Decodes entries config ∧
    ∀ e ∈ entries, (if e.1 = routerKey then looked e.2 else e.2).Sound

section

variable {v : Toml} {value? : Option Toml} {config : Config}

theorem nameOfToml_iff {name : Option String} :
    settingOfToml nameOfToml default.serviceName value? = .ok name ↔
      value? = name.map .string := by
  cases value? with
  | none => cases name <;> simp [settingOfToml, default]
  | some v => cases name <;> cases v <;> simp [settingOfToml, nameOfToml, textOfToml]

theorem flagOfToml_iff {flag : Bool} : flagOfToml v = .ok flag ↔ v = .boolean flag := by
  cases v <;> simp [flagOfToml]

theorem textOfToml_iff {text : String} : textOfToml v = .ok text ↔ v = .string text := by
  cases v <;> simp [textOfToml]

/-- A setting is read iff the value is one of its kind, or is left out and it has its default. -/
theorem settingOfToml_iff {α : Type} {read : Toml → Except Mismatch α} {write : α → Toml}
    {unset a : α} (hread : ∀ {v b}, read v = .ok b ↔ v = write b) :
    settingOfToml read unset value? = .ok a ↔ value?.getD (write unset) = write a := by
  cases value? with
  | none =>
    exact ⟨fun h => congrArg write (Except.ok.inj h),
      fun h => (hread.mpr rfl).symm.trans (hread.mpr h)⟩
  | some v => exact hread

/-- Readings of the values at three keys, each with what stands for a value that is left out. -/
theorem settings_iff {name? flag? level? : Option Toml} :
    Settings name? flag? level? config ↔
      settingOfToml nameOfToml default.serviceName name? = .ok config.serviceName ∧
      settingOfToml flagOfToml default.metricsEnabled flag? = .ok config.metricsEnabled ∧
      settingOfToml textOfToml default.logLevel level? = .ok config.logLevel := by
  rw [nameOfToml_iff, settingOfToml_iff flagOfToml_iff, settingOfToml_iff textOfToml_iff]
  exact ⟨fun h => ⟨h.1, h.2, h.3⟩, fun h => ⟨h.1, h.2.1, h.2.2⟩⟩

theorem ofTomlItems_iff {items : List Toml} :
    ofTomlItems items = .ok config ↔ Settings items[0]? items[1]? items[2]? config := by
  obtain ⟨name, flag, level⟩ := config
  unfold ofTomlItems
  rw [settings_iff, bind_ok_iff]
  simp only [bind_ok_iff, pure, Except.pure, Except.ok.injEq, Config.mk.injEq]
  constructor
  · rintro ⟨_, hname, _, hflag, _, hlevel, rfl, rfl, rfl⟩
    exact ⟨hname, hflag, hlevel⟩
  · rintro ⟨hname, hflag, hlevel⟩
    exact ⟨name, hname, flag, hflag, level, hlevel, rfl, rfl, rfl⟩

theorem valueAt?_cons (e : String × Toml) (entries : Toml.Entries) (key : String) :
    valueAt? (e :: entries) key = if e.1 = key then some e.2 else valueAt? entries key :=
  Entries.valueAt?_cons e entries key

/-- A setting that is read in two parts of a table: what the first part gives is what counts where
the other leaves it out. -/
theorem settingOfToml_cons {α : Type} {read : Toml → Except Mismatch α} {unset a : α} {key : String}
    {e : String × Toml} {entries : Toml.Entries} (habsent : valueAt? entries e.1 = none) :
    settingOfToml read unset (valueAt? (e :: entries) key) = .ok a ↔
      ∃ b, settingOfToml read unset (valueAt? [e] key) = .ok b ∧
        settingOfToml read b (valueAt? entries key) = .ok a := by
  rw [valueAt?_cons, valueAt?_cons]
  by_cases hkey : e.1 = key
  · subst hkey
    simp [settingOfToml, habsent]
  · simp [settingOfToml, Toml.valueAt?, hkey]

theorem settingOfToml_hit {α : Type} {read : Toml → Except Mismatch α} {unset : α} {key : String}
    {e : String × Toml} (h : e.1 = key) :
    settingOfToml read unset (valueAt? [e] key) = read e.2 := by
  rw [valueAt?_cons, if_pos h]
  rfl

theorem settingOfToml_miss {α : Type} {read : Toml → Except Mismatch α} {unset : α} {key : String}
    {e : String × Toml} (h : e.1 ≠ key) :
    settingOfToml read unset (valueAt? [e] key) = .ok unset := by
  rw [valueAt?_cons, if_neg h]
  rfl

/-- One entry of a table sets one field at most, and is passed over if it sets none. -/
theorem withEntry_iff {base : Config} {e : String × Toml} :
    withEntry base e = .ok config ↔
      settingOfToml nameOfToml base.serviceName (valueAt? [e] serviceNameKey) =
        .ok config.serviceName ∧
      settingOfToml flagOfToml base.metricsEnabled (valueAt? [e] metricsEnabledKey) =
        .ok config.metricsEnabled ∧
      settingOfToml textOfToml base.logLevel (valueAt? [e] logLevelKey) =
        .ok config.logLevel ∧
      (e.1 ∉ fields → e.2.Sound) := by
  obtain ⟨name, flag, level⟩ := config
  have hkeys : logLevelKey ≠ metricsEnabledKey ∧ logLevelKey ≠ serviceNameKey ∧
    metricsEnabledKey ≠ serviceNameKey := by decide
  have hfields : e.1 ∈ fields ↔
      e.1 = serviceNameKey ∨ e.1 = metricsEnabledKey ∨ e.1 = logLevelKey := by simp [fields]
  unfold withEntry
  by_cases hlevel : e.1 = logLevelKey
  · rw [if_pos hlevel, map_ok_iff, settingOfToml_miss (hlevel ▸ hkeys.2.1),
      settingOfToml_miss (hlevel ▸ hkeys.1), settingOfToml_hit hlevel]
    constructor
    · rintro ⟨_, hread, heq⟩
      cases heq
      exact ⟨rfl, rfl, hread, fun hother => absurd (hfields.mpr (.inr (.inr hlevel))) hother⟩
    · rintro ⟨hname, hflag, hread, -⟩
      cases hname
      cases hflag
      exact ⟨level, hread, rfl⟩
  by_cases hflag : e.1 = metricsEnabledKey
  · rw [if_neg hlevel, if_pos hflag, map_ok_iff, settingOfToml_miss (hflag ▸ hkeys.2.2),
      settingOfToml_hit hflag, settingOfToml_miss hlevel]
    constructor
    · rintro ⟨_, hread, heq⟩
      cases heq
      exact ⟨rfl, hread, rfl, fun hother => absurd (hfields.mpr (.inr (.inl hflag))) hother⟩
    · rintro ⟨hname, hread, hlevel, -⟩
      cases hname
      cases hlevel
      exact ⟨flag, hread, rfl⟩
  by_cases hname : e.1 = serviceNameKey
  · rw [if_neg hlevel, if_neg hflag, if_pos hname, map_ok_iff, settingOfToml_hit hname,
      settingOfToml_miss hflag, settingOfToml_miss hlevel]
    constructor
    · rintro ⟨_, hread, heq⟩
      cases heq
      exact ⟨hread, rfl, rfl, fun hother => absurd (hfields.mpr (.inl hname)) hother⟩
    · rintro ⟨hread, hflag, hlevel, -⟩
      cases hflag
      cases hlevel
      exact ⟨name, hread, rfl⟩
  · rw [if_neg hlevel, if_neg hflag, if_neg hname, checked_ok_iff, Toml.passOver_iff,
      settingOfToml_miss hname, settingOfToml_miss hflag, settingOfToml_miss hlevel]
    constructor
    · rintro ⟨hpassed, heq⟩
      cases heq
      exact ⟨rfl, rfl, rfl, fun _ => hpassed⟩
    · rintro ⟨hname', hflag', hlevel', hpassed⟩
      cases hname'
      cases hflag'
      cases hlevel'
      exact ⟨hpassed fun hfield => (hfields.mp hfield).elim hname (·.elim hflag hlevel), rfl⟩

/-- The entries of a table one after the other come to the values at the keys, as no key stands
twice. What is set before is what counts where a key is missing. -/
theorem foldlM_withEntry_iff {entries : Toml.Entries} (hnamed : Entries.Named entries)
    {base : Config} :
    entries.foldlM withEntry base = .ok config ↔
      settingOfToml nameOfToml base.serviceName (valueAt? entries serviceNameKey) =
        .ok config.serviceName ∧
      settingOfToml flagOfToml base.metricsEnabled (valueAt? entries metricsEnabledKey) =
        .ok config.metricsEnabled ∧
      settingOfToml textOfToml base.logLevel (valueAt? entries logLevelKey) =
        .ok config.logLevel ∧
      ∀ e ∈ entries, e.1 ∉ fields → e.2.Sound := by
  induction entries generalizing base with
  | nil =>
    obtain ⟨name, flag, level⟩ := config
    obtain ⟨name', flag', level'⟩ := base
    simp [settingOfToml, Toml.valueAt?, pure, Except.pure]
  | cons e entries ih =>
    obtain ⟨hfirst, hrest⟩ := List.nodup_cons.mp hnamed
    have habsent : valueAt? entries e.1 = none :=
      Entries.valueAt?_eq_none fun d hd heq => hfirst (List.mem_map.mpr ⟨d, hd, heq⟩)
    rw [List.foldlM_cons, bind_ok_iff, List.forall_mem_cons, settingOfToml_cons habsent,
      settingOfToml_cons habsent, settingOfToml_cons habsent]
    simp only [ih hrest, withEntry_iff]
    constructor
    · rintro ⟨next, ⟨hn, hf, hl, he⟩, hn', hf', hl', hes⟩
      exact ⟨⟨_, hn, hn'⟩, ⟨_, hf, hf'⟩, ⟨_, hl, hl'⟩, he, hes⟩
    · rintro ⟨⟨name, hn, hn'⟩, ⟨flag, hf, hf'⟩, ⟨level, hl, hl'⟩, he, hes⟩
      exact ⟨⟨name, flag, level⟩, ⟨hn, hf, hl, he⟩, hn', hf', hl', hes⟩

theorem sound_looked (h : v.Sound) : (looked v).Sound := by
  cases v with
  | array items =>
    rw [Sound, throughout_array] at h
    exact throughout_array.mpr ⟨trivial, fun item hitem => h.2 item (List.mem_of_mem_take hitem)⟩
  | _ => exact h

/-- Settings that are given are no numbers. -/
theorem Settings.sound {name? flag? level? : Option Toml} (h : Settings name? flag? level? config)
    (hgiven : name? = some v ∨ flag? = some v ∨ level? = some v) : v.Sound := by
  rcases hgiven with hname | hflag | hlevel
  · obtain ⟨name, -, hv⟩ := Option.map_eq_some_iff.mp (h.serviceName.symm.trans hname)
    rw [← hv]
    exact Toml.Simple.sound trivial trivial
  · have hv : v = .boolean config.metricsEnabled := by simpa [hflag] using h.metricsEnabled
    rw [hv]
    exact Toml.Simple.sound trivial trivial
  · have hv : v = .string config.logLevel := by simpa [hlevel] using h.logLevel
    rw [hv]
    exact Toml.Simple.sound trivial trivial

theorem sound_of_settings {entries : Toml.Entries} (hnamed : Entries.Named entries)
    (h : Settings (valueAt? entries serviceNameKey) (valueAt? entries metricsEnabledKey)
      (valueAt? entries logLevelKey) config) (hothers : ∀ e ∈ entries, e.1 ∉ fields → e.2.Sound) :
    ∀ e ∈ entries, e.2.Sound := by
  intro e he
  by_cases hfield : e.1 ∈ fields
  · have hvalue : valueAt? entries e.1 = some e.2 :=
      (Entries.valueAt?_eq_some_iff hnamed).mpr he
    simp only [fields, List.mem_cons, List.not_mem_nil, or_false] at hfield
    rcases hfield with hkey | hkey | hkey
    · exact h.sound (.inl (hkey ▸ hvalue))
    · exact h.sound (.inr (.inl (hkey ▸ hvalue)))
    · exact h.sound (.inr (.inr (hkey ▸ hvalue)))
  · exact hothers e he hfield

theorem sound_of_positions {items : List Toml} (h : Settings items[0]? items[1]? items[2]? config) :
    ∀ item ∈ items.take fields.length, item.Sound := by
  intro item hitem
  obtain ⟨i, hi⟩ := List.mem_iff_getElem?.mp hitem
  have hlength : fields.length = 3 := rfl
  rw [List.getElem?_take, hlength] at hi
  split at hi
  · rename_i hsmall
    match i, hsmall with
    | 0, _ => exact h.sound (.inl hi)
    | 1, _ => exact h.sound (.inr (.inl hi))
    | 2, _ => exact h.sound (.inr (.inr hi))
  · cases hi

/-- A value gives the configuration that is read of it, if the numbers in it have a value as far as
it is looked at. -/
theorem ofToml_iff (h : v.KeysOnce) :
    ofToml v = .ok config ↔ Gives v config ∧ (looked v).Sound := by
  cases v with
  | table origin entries =>
    have hnamed := h.named
    change _ ↔ _ ∧ Sound (.table origin entries)
    rw [ofToml, ofTomlEntries, foldlM_withEntry_iff hnamed, Toml.sound_table]
    constructor
    · rintro ⟨hname, hflag, hlevel, hothers⟩
      have hsettings := settings_iff.mpr ⟨hname, hflag, hlevel⟩
      exact ⟨.table hsettings, sound_of_settings hnamed hsettings hothers⟩
    · rintro ⟨⟨hsettings⟩, hsound⟩
      obtain ⟨hname, hflag, hlevel⟩ := settings_iff.mp hsettings
      exact ⟨hname, hflag, hlevel, fun e he _ => hsound e he⟩
  | array items =>
    rw [ofToml, ofTomlItems_iff, looked, Sound, throughout_array]
    exact ⟨fun h => ⟨.array h, trivial, sound_of_positions h⟩, fun | ⟨.array h, _⟩ => h⟩
  | tables elements =>
    rw [ofToml, ofTomlItems_iff]
    refine ⟨fun h => ⟨.tables (.array h), ?_⟩, fun | ⟨.tables (.array h), _⟩ => h⟩
    -- Tables are no settings, so there are none.
    cases elements with
    | nil => exact throughout_tables.mpr ⟨trivial, nofun⟩
    | cons entries elements =>
      obtain ⟨name, -, hname⟩ := Option.map_eq_some_iff.mp h.serviceName.symm
      cases hname
  | moment =>
    refine ⟨fun h => Except.ok.inj h ▸ ⟨.moment, Toml.Simple.sound trivial trivial⟩, ?_⟩
    rintro ⟨⟨⟩, -⟩
    rfl
  | string | integer | float | unreadable | boolean => exact ⟨nofun, nofun⟩

/-- The configuration after the entries of a document is that of the value at `router`, or the one
before them. -/
theorem foldlM_afterEntry_iff {entries : Toml.Entries} (hnamed : Entries.Named entries)
    {base : Config} :
    entries.foldlM afterEntry base = .ok config ↔
      (match valueAt? entries routerKey with
        | none => config = base
        | some value => ofToml value = .ok config) ∧
      ∀ e ∈ entries, e.1 ≠ routerKey → e.2.Sound := by
  induction entries generalizing base with
  | nil => exact ⟨fun h => ⟨(Except.ok.inj h).symm, nofun⟩, fun ⟨h, _⟩ => congrArg _ h.symm⟩
  | cons e entries ih =>
    obtain ⟨hfirst, hrest⟩ := List.nodup_cons.mp hnamed
    rw [List.foldlM_cons, bind_ok_iff, List.forall_mem_cons, valueAt?_cons]
    simp only [ih hrest, afterEntry]
    by_cases hkey : e.1 = routerKey
    · have habsent : valueAt? entries routerKey = none :=
        Entries.valueAt?_eq_none fun d hd heq =>
          hfirst (List.mem_map.mpr ⟨d, hd, heq.trans hkey.symm⟩)
      simp only [hkey, if_true, habsent, ne_eq, not_true, false_implies, true_and]
      constructor
      · rintro ⟨next, hnext, rfl, hsound⟩
        exact ⟨hnext, hsound⟩
      · rintro ⟨hnext, hsound⟩
        exact ⟨config, hnext, rfl, hsound⟩
    · simp only [hkey, if_false, checked_ok_iff, Toml.passOver_iff, ne_eq, not_false_iff,
        true_implies]
      constructor
      · rintro ⟨next, ⟨hpassed, rfl⟩, hrouter, hsound⟩
        exact ⟨hrouter, hpassed, hsound⟩
      · rintro ⟨hrouter, hpassed, hsound⟩
        exact ⟨base, ⟨hpassed, rfl⟩, hrouter, hsound⟩

/-- What is looked at of a document has sound numbers iff all other keys have, and so has what is
looked at of the value at `router`. -/
theorem sound_entries_iff {entries : Toml.Entries} (hnamed : Entries.Named entries) :
    (∀ e ∈ entries, (if e.1 = routerKey then looked e.2 else e.2).Sound) ↔
      (∀ v, valueAt? entries routerKey = some v → (looked v).Sound) ∧
        ∀ e ∈ entries, e.1 ≠ routerKey → e.2.Sound := by
  constructor
  · intro h
    constructor
    · intro v hv
      have hsound := h _ (Entries.mem_of_valueAt? hv)
      rwa [if_pos rfl] at hsound
    · intro e he hkey
      have hsound := h e he
      rwa [if_neg hkey] at hsound
  · rintro ⟨hrouter, hothers⟩ e he
    split
    · rename_i hkey
      exact hrouter e.2 (hkey ▸ (Entries.valueAt?_eq_some_iff hnamed).mpr he)
    · rename_i hkey
      exact hothers e he hkey

theorem ofDocument_iff {entries : Toml.Entries} (h : Toml.KeysOnce (.table .header entries)) :
    ofDocument entries = .ok config ↔ Decodes entries config ∧
      ∀ e ∈ entries, (if e.1 = routerKey then looked e.2 else e.2).Sound := by
  unfold ofDocument Decodes
  rw [foldlM_afterEntry_iff h.named, sound_entries_iff h.named]
  cases hrouter : valueAt? entries routerKey with
  | none => simp
  | some value => simp [ofToml_iff (h.at_key hrouter), and_assoc]

variable {F : Type} {readers : Readers F}

/-- A text is decoded iff it holds a configuration, and then to that one. -/
theorem decode_iff (lawful : readers.Lawful) {text : String} :
    decode readers text = .ok config ↔ Holds readers text config := by
  unfold decode Holds
  cases hparse : readers.document text with
  | none => exact ⟨nofun, nofun⟩
  | some entries =>
    simp only [Option.some.injEq, exists_eq_left', ← ofDocument_iff (lawful.keysOnce hparse)]
    cases ofDocument entries with
    | ok decoded =>
      exact ⟨fun h => congrArg _ (Except.ok.inj h), fun h => congrArg _ (Except.ok.inj h)⟩
    | error cause =>
      refine ⟨fun h => ?_, nofun⟩
      dsimp only at h
      split at h <;> cases h

/-- Of a TOML document all numbers have a value, whether they are looked at or not. -/
theorem holds_of_isDocument {text : String} (h : readers.IsDocument text) :
    Holds readers text config ↔
      ∃ entries, readers.document text = some entries ∧ Decodes entries config := by
  obtain ⟨entries, hparse, hsound⟩ := h
  refine exists_congr fun other => and_congr_right fun hother => and_iff_left ?_
  cases hother.symm.trans hparse
  intro e he
  split
  · exact sound_looked (hsound e he)
  · exact hsound e he

end

end Config

end KeyRoute
