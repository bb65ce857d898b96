-- What is written in documents is read back. A record has one written form and may be read from
-- many documents: fields may be left out or stand in any order, others may stand between them, a
-- status has an alias. So what is written of what was read is the normal form of a document.
import KeyRoute.Config.Json
import KeyRoute.Member.Change
import KeyRoute.Proofs.Entries

namespace KeyRoute

variable {α : Type}

/-! ## Normal forms -/

/-- How a kind of record stands in documents. -/
structure Json.Codec (α : Type) where
  write : α → Json
  read : Json → Except Mismatch α

namespace Json.Codec

variable (codec : Codec α)

/-- What is written is read back. -/
def Lawful : Prop := ∀ a, codec.read (codec.write a) = .ok a

/-- What is written of the record in a document; `none` if it holds no such record. -/
def normal? (document : Json) : Option Json := (codec.read document).toOption.map codec.write

/-- Each document that holds a record has a normal form. -/
structure Normal : Prop where
  /-- The normal form holds the same record, and is its own normal form. -/
  reached : ∀ document a, codec.read document = .ok a → ∃ normal,
    codec.normal? document = some normal ∧ codec.read normal = .ok a ∧
    codec.normal? normal = some normal
  /-- Documents hold the same record iff their normal forms are the same. -/
  tells : ∀ document other a b, codec.read document = .ok a → codec.read other = .ok b →
    (a = b ↔ codec.normal? document = codec.normal? other)

variable {codec} {document : Json} {a b : α}

theorem normal?_of_read (h : codec.read document = .ok a) :
    codec.normal? document = some (codec.write a) := by
  unfold normal?
  rw [h]
  rfl

namespace Lawful

variable (hlaw : codec.Lawful)
include hlaw

theorem write_inj : codec.write a = codec.write b ↔ a = b := by
  constructor
  · intro h
    have hread := hlaw a
    rw [h, hlaw b] at hread
    cases hread
    rfl
  · rintro rfl
    rfl

theorem normal : codec.Normal where
  reached document a h := ⟨codec.write a, normal?_of_read h, hlaw a, normal?_of_read (hlaw a)⟩
  tells document other a b ha hb := by
    rw [normal?_of_read ha, normal?_of_read hb, Option.some.injEq, hlaw.write_inj]

end Lawful

end Json.Codec

/-! ## The records -/

def Config.codec : Json.Codec Config := ⟨toJson, ofJson⟩

theorem Config.lawful : codec.Lawful := ofJson_toJson

namespace Change

theorem incarnationOfJson_toNat (n : UInt64) : incarnationOfJson (.int n.toNat) = .ok n := by
  have hpos : ¬ (n.toNat : Int) < 0 := by omega
  have hsmall : (n.toNat : Int).toNat < UInt64.size := n.toNat_lt
  simp only [incarnationOfJson]
  rw [if_neg hpos, if_pos hsmall, Int.toNat_natCast, UInt64.ofNat_toNat]

theorem ofJson_toJson (change : Change) : ofJson change.toJson = .ok change := by
  obtain ⟨address, status, incarnation⟩ := change
  have haddress : Json.valueAt? [("address", .str address), ("status", status.toJson),
    ("incarnation", .int incarnation.toNat)] "address" = some (.str address) := rfl
  have hstatus : Json.valueAt? [("address", .str address), ("status", status.toJson),
    ("incarnation", .int incarnation.toNat)] "status" = some status.toJson := rfl
  have hincarnation : Json.valueAt? [("address", .str address), ("status", status.toJson),
    ("incarnation", .int incarnation.toNat)] "incarnation" = some (.int incarnation.toNat) := rfl
  simp only [toJson, ofJson, ofEntries, haddress, hstatus, hincarnation, Option.mapM_some,
    addressOfJson, incarnationOfJson_toNat, Status.ofJson_toJson]
  rfl

/-- Changes in an array, in their order. -/
def listToJson (batch : List Change) : Json := .arr (batch.map toJson)

def listCodec : Json.Codec (List Change) := ⟨listToJson, listOfJson⟩

theorem list_lawful : listCodec.Lawful := by
  intro batch
  change (batch.map toJson).mapM ofJson = .ok batch
  induction batch with
  | nil => rfl
  | cons change batch ih =>
    rw [List.map_cons, List.mapM_cons, ofJson_toJson, ih]
    rfl

end Change

/-! ## Objects -/

/-- The fields of a configuration. -/
def Config.fields : List String := [serviceNameKey, metricsEnabledKey, logLevelKey]

/-- The fields of a change. -/
def Change.fields : List String := ["address", "status", "incarnation"]

section

variable {entries other extra : List (String × Json)}

/-- A configuration is read from its fields alone. -/
theorem Config.ofJson_congr
    (h : ∀ key ∈ fields, Json.valueAt? other key = Json.valueAt? entries key) :
    ofJson (.obj other) = ofJson (.obj entries) := by
  change ofJsonEntries other = ofJsonEntries entries
  unfold ofJsonEntries
  rw [h serviceNameKey (by simp [fields]), h metricsEnabledKey (by simp [fields]),
    h logLevelKey (by simp [fields])]

/-- A change is read from its fields alone. -/
theorem Change.ofJson_congr
    (h : ∀ key ∈ fields, Json.valueAt? other key = Json.valueAt? entries key) :
    ofJson (.obj other) = ofJson (.obj entries) := by
  change ofEntries other = ofEntries entries
  unfold ofEntries
  rw [h "address" (by simp [fields]), h "status" (by simp [fields]),
    h "incarnation" (by simp [fields])]

/-- The fields of a record have the values that they had, if the keys are put in another order and
others come that are no fields. -/
theorem Json.fields_of_perm {fields : List String} (hnamed : Entries.Named other)
    (hperm : other.Perm (entries ++ extra)) (hextra : ∀ e ∈ extra, e.1 ∉ fields) :
    ∀ key ∈ fields, valueAt? other key = valueAt? entries key := by
  intro key hkey
  apply Entries.valueAt?_of_perm hnamed hperm
  rintro e he rfl
  exact hextra e he hkey

end

/-! ## The law -/

/-- A configuration that is written is read back, be it valid or not, and so are changes in a list.
So what is written of what was read is the normal form of a document: it is read, to the same, and
what is written of that is the same again; and documents hold the same iff they have the same normal
form. It does not matter in which order an object names its keys, nor whether it names some that are
no fields: what is read of it, or why it cannot be read, is the same. -/
theorem what_is_written_is_the_normal_form :
    (∀ config : Config, Config.ofJson config.toJson = .ok config) ∧
    (∀ batch, Change.listOfJson (Change.listToJson batch) = .ok batch) ∧
    Config.codec.Normal ∧ Change.listCodec.Normal ∧
    ∀ entries other extra : List (String × Json), Entries.Named other →
      other.Perm (entries ++ extra) →
      ((∀ e ∈ extra, e.1 ∉ Config.fields) →
        Config.ofJson (.obj other) = Config.ofJson (.obj entries)) ∧
      ((∀ e ∈ extra, e.1 ∉ Change.fields) →
        Change.ofJson (.obj other) = Change.ofJson (.obj entries)) := by
  refine ⟨Config.lawful, Change.list_lawful, Config.lawful.normal, Change.list_lawful.normal, ?_⟩
  intro entries other extra hnamed hperm
  constructor
  · intro hextra
    exact Config.ofJson_congr (Json.fields_of_perm hnamed hperm hextra)
  · intro hextra
    exact Change.ofJson_congr (Json.fields_of_perm hnamed hperm hextra)

/-- A report of a member that left by the alias, and the same with its keys in another order and one
between them. -/
theorem the_alias_is_not_in_the_normal_form :
    let entries := [("address", Json.str "b"), ("status", .str "left")]
    let other := [("status", Json.str "left"), ("zone", .null), ("address", .str "b")]
    let normal := Json.arr
      [.obj [("address", .str "b"), ("status", .str "leave"), ("incarnation", .int 0)]]
    Change.ofJson (.obj other) = .ok ⟨"b", .leave, 0⟩ ∧
    Change.listCodec.normal? (.arr [.obj entries]) = some normal ∧
    Change.listCodec.normal? (.arr [.obj other]) = some normal ∧
    Change.listCodec.normal? normal = some normal := by
  intro entries other normal
  obtain ⟨-, -, -, ⟨hreached, htells⟩, hobjects⟩ := what_is_written_is_the_normal_form
  have hentries : Change.ofJson (.obj entries) = .ok ⟨"b", .leave, 0⟩ := rfl
  have hnamed : Entries.Named other := by
    change ["status", "zone", "address"].Nodup
    decide
  have hperm : other.Perm (entries ++ [("zone", .null)]) := by
    change ([("status", Json.str "left"), ("zone", .null)] ++ [("address", Json.str "b")]).Perm _
    exact List.perm_append_comm
  have hother :=
    ((hobjects entries other _ hnamed hperm).2 (by simp [Change.fields])).trans hentries
  have hlist : Change.listCodec.read (.arr [.obj entries]) = .ok [⟨"b", .leave, 0⟩] := rfl
  have hlist' : Change.listCodec.read (.arr [.obj other]) = .ok [⟨"b", .leave, 0⟩] := rfl
  obtain ⟨normal', hnormal, -, hagain⟩ := hreached _ _ hlist
  have hsame := (htells _ _ _ _ hlist hlist').mp rfl
  have hthis : normal' = normal := by
    have hwritten : Change.listCodec.normal? (.arr [.obj entries]) = some normal := rfl
    rw [hnormal] at hwritten
    exact Option.some.inj hwritten
  subst hthis
  exact ⟨hother, hnormal, hsame ▸ hnormal, hagain⟩

end KeyRoute
