import Nxpod.Library.Keyed

/-!
# Encryption and Key Rotation

Values are encrypted with the primary key of a configuration, and what is stored with them says
which key this was. To decrypt a value the configuration is searched for a key of this name and
version, so that another key may have become the primary one meanwhile.

The engine that encrypts texts, the encoding of key material and the serialization of values are
arbitrary.

## Main definitions

* `KeyMetadata`: The name and the version of a key.
* `KeyConfig`, `getPrimaryKey`, `getKeyFor`: A configuration of keys.
* `Encrypted`: What is stored.
* `EncryptionService`: What the service is made of.
* `EncryptionService.encrypt`, `EncryptionService.decrypt`: The service.
* `StillContains`: What is kept of a configuration.

## Theorems

* `getPrimaryKey_eq`: The primary key of a configuration with only one.
* `getKeyFor_eq`: A key is found by its name and version.
* `getKeyFor_of_not_mem`: A key that is not configured is not found.
* `decrypt_rotated`: Values outlive the primary key.
-/

namespace Nxpod

namespace Protocol

/-- The name and the version of a key. -/
@[ext]
structure KeyMetadata where
  name : String
  version : Int
  deriving DecidableEq

/-- A key with its material. -/
structure Key (β : Type*) where
  metadata : KeyMetadata
  material : β

/-- The material is encoded. -/
structure KeyConfig extends KeyMetadata where
  material : String
  primary : Bool
  deriving DecidableEq

/-- A configuration is taken if exactly one of its keys is the primary one. -/
def loadKeyConfigFromJsonString (parse : String → Except String (Option (List KeyConfig)))
    (configStr : String) : Except String (List KeyConfig) :=
  match parse configStr with
  | .error err => .error err
  | .ok none => .error "Invalid key config!"
  | .ok (some keys) =>
      if keys.foldl (fun p k => if k.primary then p + 1 else p) 0 ≠ 1 then
        .error "Invalid key config!"
      else .ok keys

variable {β ι τ : Type*}

/-- The key of a configuration's entry. -/
def configToKey (buffer : String → β) (config : KeyConfig) : Key β :=
  ⟨config.toKeyMetadata, buffer config.material⟩

/-- The first key that is marked as primary. -/
def getPrimaryKey (buffer : String → β) (keys : List KeyConfig) : Except String (Key β) :=
  match keys.find? fun key => key.primary with
  | none => .error "No primary encryption key found!"
  | some primaryKey => .ok (configToKey buffer primaryKey)

/-- The first key with this name and version. -/
def getKeyFor (buffer : String → β) (keys : List KeyConfig) (metadata : KeyMetadata) :
    Except String (Key β) :=
  match keys.find? fun k => k.name = metadata.name ∧ k.version = metadata.version with
  | none => .error ("No key found for metadata " ++ metadata.name ++ "/" ++
      toString metadata.version)
  | some key => .ok (configToKey buffer key)

/-- What the engine needs besides the key. -/
structure KeyParams where
  iv : String

/-- What the engine gives. -/
structure EncryptedData where
  data : String
  keyParams : KeyParams

/-- What is stored. It says which key it was. -/
structure Encrypted extends EncryptedData where
  keyMetadata : KeyMetadata

/-- The first argument of `encrypt` is what is drawn at random. -/
structure EncryptionEngine (ι β : Type*) where
  encrypt : ι → String → β → Except String EncryptedData
  decrypt : EncryptedData → β → Except String String

/-- What the service is made of. -/
structure EncryptionService (ι β τ : Type*) where
  engine : EncryptionEngine ι β
  buffer : String → β
  serialize : τ → String
  deserialize : String → Except String τ

namespace EncryptionService

variable (service : EncryptionService ι β τ) (keys : List KeyConfig)

/-- A value is serialized and encrypted with the primary key. -/
def encrypt (iv : ι) (data : τ) : Except String Encrypted :=
  match getPrimaryKey service.buffer keys with
  | .error err => .error err
  | .ok key => match service.engine.encrypt iv (service.serialize data) key.material with
    | .error err => .error err
    | .ok encryptedData => .ok ⟨encryptedData, key.metadata⟩

/-- The key is looked up, and then the value is decrypted and read. -/
def decrypt (encrypted : Encrypted) : Except String τ :=
  match getKeyFor service.buffer keys encrypted.keyMetadata with
  | .error err => .error err
  | .ok key => match service.engine.decrypt encrypted.toEncryptedData key.material with
    | .error err => .error err
    | .ok serializedData => service.deserialize serializedData

end EncryptionService

/-! ## Keys -/

/-- Every key is still there, maybe as another kind of key. -/
def StillContains (keys later : List KeyConfig) : Prop :=
  ∀ k ∈ keys, ∃ k' ∈ later, k'.toKeyMetadata = k.toKeyMetadata ∧ k'.material = k.material

variable {buffer : String → β} {keys later : List KeyConfig}

theorem getPrimaryKey_eq (hprimary : ∃ k ∈ keys, k.primary = true) :
    ∃ k ∈ keys, k.primary = true ∧ getPrimaryKey buffer keys = .ok (configToKey buffer k) := by
  rcases hprimary with ⟨k, hk, hprimary⟩
  cases hfind : keys.find? fun key => key.primary with
  | none => exact absurd hprimary (List.find?_eq_none.mp hfind k hk)
  | some key =>
      refine ⟨key, List.mem_of_find?_eq_some hfind, List.find?_some hfind, ?_⟩
      rw [getPrimaryKey, hfind]

/-- A name and a version make a key. -/
theorem find?_eq_findKey (keys : List KeyConfig) (metadata : KeyMetadata) :
    (keys.find? fun k => k.name = metadata.name ∧ k.version = metadata.version) =
      Keyed.findKey KeyConfig.toKeyMetadata metadata keys := by
  have hsame : (fun k : KeyConfig =>
      decide (k.name = metadata.name ∧ k.version = metadata.version)) =
        fun k => k.toKeyMetadata == metadata := by
    funext k
    rw [beq_eq_decide, decide_eq_decide]
    exact ⟨fun ⟨hname, hversion⟩ => KeyMetadata.ext hname hversion, fun h => h ▸ ⟨rfl, rfl⟩⟩
  rw [hsame, Keyed.findKey]

/-- A key is found by its metadata when these are distinct. -/
theorem getKeyFor_eq (hdistinct : (keys.map KeyConfig.toKeyMetadata).Nodup) {k : KeyConfig}
    (hk : k ∈ keys) : getKeyFor buffer keys k.toKeyMetadata = .ok (configToKey buffer k) := by
  rw [getKeyFor, find?_eq_findKey, (Keyed.findKey_eq_some_iff hdistinct).mpr ⟨hk, rfl⟩]

theorem getKeyFor_of_not_mem {metadata : KeyMetadata}
    (h : metadata ∉ keys.map KeyConfig.toKeyMetadata) :
    getKeyFor buffer keys metadata = .error ("No key found for metadata " ++ metadata.name ++
      "/" ++ toString metadata.version) := by
  rw [getKeyFor, find?_eq_findKey, Keyed.findKey_eq_none_iff.mpr h]

/-- The loaded configurations have one primary key. -/
theorem count_of_load {parse : String → Except String (Option (List KeyConfig))}
    {configStr : String} (h : loadKeyConfigFromJsonString parse configStr = .ok keys) :
    keys.countP KeyConfig.primary = 1 := by
  have hcount : ∀ (keys : List KeyConfig) (n : Nat),
      keys.foldl (fun p k => if k.primary then p + 1 else p) n =
        n + keys.countP KeyConfig.primary := by
    intro keys
    induction keys with
    | nil => exact fun n => rfl
    | cons k keys ih =>
        intro n
        rw [List.foldl_cons, ih, List.countP_cons]
        by_cases hk : k.primary = true
        · rw [if_pos hk, if_pos hk]
          omega
        · rw [if_neg hk, if_neg hk]
          omega
  unfold loadKeyConfigFromJsonString at h
  split at h
  · exact nomatch h
  · exact nomatch h
  · split at h
    · exact nomatch h
    · next hone =>
        rw [← Except.ok.inj h, ← Nat.zero_add (List.countP _ _), ← hcount]
        exact not_not.mp hone

/-! ## Rotation -/

variable {service : EncryptionService ι β τ}

namespace EncryptionService

/-- What was encrypted names a key of the configuration. -/
theorem encrypt_ok {iv : ι} {data : τ} {encrypted : Encrypted}
    (h : service.encrypt keys iv data = .ok encrypted) :
    ∃ k ∈ keys, encrypted.keyMetadata = k.toKeyMetadata ∧
      service.engine.encrypt iv (service.serialize data) (service.buffer k.material) =
        .ok encrypted.toEncryptedData := by
  unfold encrypt getPrimaryKey at h
  cases hfind : keys.find? fun key => key.primary with
  | none =>
      rw [hfind] at h
      exact nomatch h
  | some k =>
      rw [hfind] at h
      dsimp only [configToKey] at h
      split at h
      · exact nomatch h
      · next encryptedData hencrypt =>
          rw [← Except.ok.inj h]
          exact ⟨k, List.mem_of_find?_eq_some hfind, rfl, hencrypt⟩

/-- With one primary key values are encrypted with this key. They are decrypted to what they
    were with every later configuration that still contains the keys, whichever is the primary
    one. What was encrypted with a key that is not configured is not decrypted at all. So keys
    can be rotated by adding a new one and making it the primary one, without a look at what is
    in the database. -/
theorem decrypt_rotated (service : EncryptionService ι β τ)
    (hinverts : ∀ iv s material encryptedData, service.engine.encrypt iv s material =
      .ok encryptedData → service.engine.decrypt encryptedData material = .ok s)
    (hjson : ∀ data, service.deserialize (service.serialize data) = .ok data)
    (keys later : List KeyConfig) (hprimary : keys.countP KeyConfig.primary = 1)
    (hlater : (later.map KeyConfig.toKeyMetadata).Nodup) (hkept : StillContains keys later) :
    (∀ iv data, ∃ k ∈ keys, k.primary = true ∧ service.encrypt keys iv data =
      (service.engine.encrypt iv (service.serialize data) (service.buffer k.material)).map
        fun encryptedData => ⟨encryptedData, k.toKeyMetadata⟩) ∧
    (∀ iv data encrypted, service.encrypt keys iv data = .ok encrypted →
      service.decrypt later encrypted = .ok data) ∧
    ∀ encrypted : Encrypted, encrypted.keyMetadata ∉ later.map KeyConfig.toKeyMetadata →
      service.decrypt later encrypted = .error ("No key found for metadata " ++
        encrypted.keyMetadata.name ++ "/" ++ toString encrypted.keyMetadata.version) := by
  refine ⟨fun iv data => ?_, fun iv data encrypted h => ?_, fun encrypted h => ?_⟩
  · have hsome : ∃ k ∈ keys, k.primary = true :=
      List.countP_pos_iff.mp (hprimary ▸ Nat.one_pos)
    have hget : ∃ k ∈ keys, k.primary = true ∧
        getPrimaryKey service.buffer keys = .ok (configToKey service.buffer k) :=
      getPrimaryKey_eq hsome
    rcases hget with ⟨k, hk, hkPrimary, hget⟩
    refine ⟨k, hk, hkPrimary, ?_⟩
    rw [encrypt, hget]
    dsimp only [configToKey]
    cases service.engine.encrypt iv (service.serialize data) (service.buffer k.material) with
    | error err => rfl
    | ok encryptedData => rfl
  · rcases encrypt_ok h with ⟨k, hk, hmetadata, hencrypt⟩
    -- A later configuration has the key with the same name, version and material.
    rcases hkept k hk with ⟨k', hk', hsame, hmaterial⟩
    rw [decrypt, hmetadata, ← hsame, getKeyFor_eq hlater hk']
    dsimp only [configToKey]
    rw [hmaterial, hinverts iv _ _ _ hencrypt]
    exact hjson data
  · rw [decrypt, getKeyFor_of_not_mem h]

/-- The toy cipher keeps the key beside the text. -/
def toyService : EncryptionService Unit String Bool where
  engine :=
    { encrypt := fun _ s material => .ok ⟨s, ⟨material⟩⟩
      decrypt := fun encryptedData material =>
        if encryptedData.keyParams.iv = material then .ok encryptedData.data
        else .error "bad decrypt" }
  buffer := fun material => material
  serialize := fun data => if data then "true" else "false"
  deserialize := fun s =>
    if s = "true" then .ok true else if s = "false" then .ok false else .error "Unexpected token"

/-- The primary key of a name is replaced by its next version. -/
theorem decrypt_rotated_toy :
    toyService.encrypt [⟨⟨"general", 1⟩, "a2V5", true⟩] () false =
        .ok ⟨⟨"false", ⟨"a2V5"⟩⟩, ⟨"general", 1⟩⟩ ∧
      toyService.decrypt [⟨⟨"general", 2⟩, "bmV3", true⟩, ⟨⟨"general", 1⟩, "a2V5", false⟩]
        ⟨⟨"false", ⟨"a2V5"⟩⟩, ⟨"general", 1⟩⟩ = .ok false := by
  refine ⟨rfl, (decrypt_rotated toyService ?_ ?_ [⟨⟨"general", 1⟩, "a2V5", true⟩] _ rfl
    (by decide) ?_).2.1 () false _ rfl⟩
  · intro iv s material encryptedData h
    rw [← Except.ok.inj h]
    exact if_pos rfl
  · exact fun data => by cases data <;> rfl
  · intro k hk
    rw [List.mem_singleton.mp hk]
    exact ⟨⟨⟨"general", 1⟩, "a2V5", false⟩, by decide, rfl, rfl⟩

end EncryptionService

end Protocol

end Nxpod
