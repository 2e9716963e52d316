import Nxpod.Library.Base64

/-!
# License Evaluation

A license key is a payload with a signature, and a new evaluator is made from a key in a chain of
steps: the text is decoded, the payload is read and written again, the signature is verified with
one public key after the other, and then the domain and the time are compared.

The steps share one variable for their errors, and the loop over the public keys leaves it alone
when there are none. What it then holds is that writing the payload succeeded, so without public
keys any payload is as good as a signed one. With one public key at least, only signed payloads
are accepted.

JSON, the hash and the signatures are arbitrary.

## Main definitions

* `LicensePayload`: What is licensed, to which domain and until when.
* `SignedPayload`: The payload with its signature.
* `Primitives`, `Dependable`: What the licensor calls, and what it relies on.
* `Evaluator`: An evaluator remembers why its license is invalid.
* `newEvaluator`, `sign`: The licensor.
* `Admits`: The text is a payload for this domain and time.

## Theorems

* `verifyAny_eq_none_iff`: The loop over the public keys.
* `newEvaluator_eq`, `exists_admits_of_valid`: When an evaluator is valid.
* `licensed_iff`: Texts that are valid without a signature.
* `newEvaluator_sign`: What was signed is valid.
* `evaluates_iff`: Both at once.
-/

namespace Nxpod

namespace Licensor

/-- What is licensed, to which domain and until when. -/
structure LicensePayload (τ : Type*) where
  id : String
  domain : String
  level : Int
  validUntil : τ
  seats : Int
  deriving DecidableEq

/-- The payload with its signature. -/
structure SignedPayload (τ : Type*) extends LicensePayload τ where
  signature : List UInt8

/-- What the licensor calls. A key has a public and a private part, and what a signature draws at
random is an argument. -/
structure Primitives (τ κ ρ ι : Type*) where
  marshal : LicensePayload τ → Except String (List UInt8)
  marshalSigned : SignedPayload τ → Except String (List UInt8)
  unmarshal : List UInt8 → Except String (SignedPayload τ)
  sum256 : List UInt8 → List UInt8
  verifyPKCS1v15 : κ → List UInt8 → List UInt8 → Except String Unit
  signPKCS1v15 : ι → ρ → List UInt8 → Except String (List UInt8)
  publicKey : ρ → κ
  /-- The point in time, whatever the zone. -/
  instant : τ → Int
  /-- The text of an error, in quotes. -/
  quote : String → String
  /-- Where a text is not base64. -/
  corruptInput : List UInt8 → String
  defaultTime : τ

variable {τ κ ρ ι : Type*}

/-- An evaluator remembers why its license is invalid. The empty text says that it is valid. -/
structure Evaluator (τ : Type*) where
  invalid : String
  lic : LicensePayload τ

namespace Evaluator

/-- Whether the license is valid, and why not. -/
def validate (e : Evaluator τ) : String × Bool :=
  if e.invalid = "" then ("", true) else (e.invalid, false)

/-- The license that was evaluated. -/
def inspect (e : Evaluator τ) : LicensePayload τ := e.lic

end Evaluator

namespace Primitives

variable (p : Primitives τ κ ρ ι)

/-- A time is before another one. -/
def before (t u : τ) : Bool := decide (p.instant t < p.instant u)

/-- What a literal leaves out is empty. -/
def noLicense : LicensePayload τ := ⟨"", "", 0, p.defaultTime, 0⟩

/-- The license without a key. -/
def defaultLicense : LicensePayload τ := { p.noLicense with id := "default-license", level := 0 }

/-- The loop over the public keys, which starts with the error the step before it left. -/
def verifyAny (hashed signature : List UInt8) : List κ → Option String → Option String
  | [], err => err
  | k :: ks, _ => match p.verifyPKCS1v15 k hashed signature with
    | .ok () => none
    | .error err => verifyAny hashed signature ks (some err)

/-- The chain of steps. A key that fails one of them leaves an evaluator without a license. -/
def newEvaluator (publicKeys : List κ) (now : τ) (key : List UInt8) (domain : String) :
    Evaluator τ :=
  if key = [] then ⟨"", p.defaultLicense⟩
  else match Base64.decode key with
  | none => ⟨"cannot decode key: " ++ p.quote (p.corruptInput key), p.noLicense⟩
  | some deckey => match p.unmarshal deckey with
    | .error err => ⟨"cannot unmarshal key: " ++ p.quote err, p.noLicense⟩
    | .ok lic => match p.marshal lic.toLicensePayload with
      | .error err => ⟨"cannot remarshal key: " ++ p.quote err, p.noLicense⟩
      | .ok keyWoSig =>
          match p.verifyAny (p.sum256 keyWoSig) lic.signature publicKeys none with
          | some err => ⟨"cannot verify key: " ++ p.quote err, p.noLicense⟩
          | none =>
              if domain ≠ lic.domain then ⟨"wrong domain", p.noLicense⟩
              else if p.before lic.validUntil now then ⟨"not valid anymore", p.noLicense⟩
              else ⟨"", lic.toLicensePayload⟩

/-- How a key is made: the payload is written and signed, and both are written together. -/
def sign (random : ι) (l : LicensePayload τ) (priv : ρ) : Except String (List UInt8) :=
  match p.marshal l with
  | .error err => .error err
  | .ok rawl => match p.signPKCS1v15 random priv (p.sum256 rawl) with
    | .error err => .error err
    | .ok sig => match p.marshalSigned ⟨l, sig⟩ with
      | .error err => .error err
      | .ok resl => .ok (Base64.encode resl)

/-- What the licensor relies on. Signatures are accepted exactly when they were made with the
matching key. A payload is read as it was written, up to the zone of its time, and what was read
is written as before. -/
structure Dependable : Prop where
  verify_iff : ∀ k hashed signature, p.verifyPKCS1v15 k hashed signature = .ok () ↔
    ∃ priv random, p.publicKey priv = k ∧ p.signPKCS1v15 random priv hashed = .ok signature
  stable : ∀ l signature text, p.marshalSigned ⟨l, signature⟩ = .ok text →
    ∃ t, p.unmarshal text = .ok ⟨{ l with validUntil := t }, signature⟩ ∧
      p.instant t = p.instant l.validUntil ∧ p.marshal { l with validUntil := t } = p.marshal l
  unmarshal_nil : ∃ err, p.unmarshal [] = .error err

/-- The text is a payload for the domain that has not ended. -/
def Admits (now : τ) (key : List UInt8) (domain : String) (lic : SignedPayload τ)
    (keyWoSig : List UInt8) : Prop :=
  ∃ deckey, Base64.decode key = some deckey ∧ p.unmarshal deckey = .ok lic ∧
    p.marshal lic.toLicensePayload = .ok keyWoSig ∧ lic.domain = domain ∧
    p.before lic.validUntil now = false

/-- A valid evaluator is only made of signed payloads. -/
def Licensed (publicKeys : List κ) (now : τ) (key : List UInt8) (domain : String) : Prop :=
  (p.newEvaluator publicKeys now key domain).validate.2 = true →
    ∃ lic keyWoSig, p.Admits now key domain lic keyWoSig ∧
      ∃ k ∈ publicKeys, p.verifyPKCS1v15 k (p.sum256 keyWoSig) lic.signature = .ok ()

variable {p} {publicKeys : List κ} {now : τ} {key : List UInt8} {domain : String}

/-- A signature is accepted if the first key accepts it or a later one does. -/
theorem verifyAny_cons_eq_none_iff {hashed signature : List UInt8} {k : κ} {ks : List κ}
    {err : Option String} :
    p.verifyAny hashed signature (k :: ks) err = none ↔
      ∃ k' ∈ k :: ks, p.verifyPKCS1v15 k' hashed signature = .ok () := by
  induction ks generalizing k err with
  | nil =>
      rw [verifyAny]
      cases hverify : p.verifyPKCS1v15 k hashed signature with
      | ok => exact iff_of_true rfl ⟨k, List.mem_cons_self, hverify⟩
      | error err =>
          refine iff_of_false nofun ?_
          rintro ⟨k', hk', hok⟩
          rw [List.mem_singleton.mp hk', hverify] at hok
          exact nomatch hok
  | cons k'' ks ih =>
      rw [verifyAny]
      cases hverify : p.verifyPKCS1v15 k hashed signature with
      | ok => exact iff_of_true rfl ⟨k, List.mem_cons_self, hverify⟩
      | error err =>
          refine ih.trans ?_
          rw [List.exists_mem_cons_iff (a := k), hverify]
          exact (or_iff_right nofun).symm

/-- The loop ends without an error if a key accepts the signature, or if there is no key. -/
theorem verifyAny_eq_none_iff {hashed signature : List UInt8} :
    p.verifyAny hashed signature publicKeys none = none ↔
      publicKeys = [] ∨ ∃ k ∈ publicKeys, p.verifyPKCS1v15 k hashed signature = .ok () := by
  cases publicKeys with
  | nil => exact iff_of_true rfl (Or.inl rfl)
  | cons k ks =>
      rw [verifyAny_cons_eq_none_iff]
      exact (or_iff_right (List.cons_ne_nil k ks)).symm

theorem append_ne_empty {s t : String} (h : s ≠ "") : s ++ t ≠ "" := by
  intro hempty
  rw [String.append_eq_empty_iff] at hempty
  exact h hempty.1

/-- Without an error in the loop a payload for the domain that has not ended is held. -/
theorem newEvaluator_eq (hkey : key ≠ []) {lic : SignedPayload τ} {keyWoSig : List UInt8}
    (hadmits : p.Admits now key domain lic keyWoSig)
    (hverify : p.verifyAny (p.sum256 keyWoSig) lic.signature publicKeys none = none) :
    p.newEvaluator publicKeys now key domain = ⟨"", lic.toLicensePayload⟩ := by
  rcases hadmits with ⟨deckey, hdecode, hunmarshal, hmarshal, hdomain, hnow⟩
  rw [newEvaluator, if_neg hkey, hdecode]
  dsimp only
  rw [hunmarshal]
  dsimp only
  rw [hmarshal]
  dsimp only
  rw [hverify]
  dsimp only
  rw [if_neg (not_not.mpr hdomain.symm), hnow, if_neg Bool.false_ne_true]

/-- Nothing else is valid, as every other step returns a message. -/
theorem exists_admits_of_valid (hkey : key ≠ [])
    (hvalid : (p.newEvaluator publicKeys now key domain).invalid = "") :
    ∃ lic keyWoSig, p.Admits now key domain lic keyWoSig ∧
      p.verifyAny (p.sum256 keyWoSig) lic.signature publicKeys none = none := by
  rw [newEvaluator, if_neg hkey] at hvalid
  split at hvalid
  · exact absurd hvalid (append_ne_empty (by decide))
  · next deckey hdecode =>
      split at hvalid
      · exact absurd hvalid (append_ne_empty (by decide))
      · next lic hunmarshal =>
          split at hvalid
          · exact absurd hvalid (append_ne_empty (by decide))
          · next keyWoSig hmarshal =>
              split at hvalid
              · exact absurd hvalid (append_ne_empty (by decide))
              · next hverify =>
                  split at hvalid
                  · exact absurd hvalid (by decide : "wrong domain" ≠ "")
                  · next hdomain =>
                      split at hvalid
                      · exact absurd hvalid (by decide : "not valid anymore" ≠ "")
                      · next hnow =>
                          exact ⟨lic, keyWoSig, ⟨deckey, hdecode, hunmarshal, hmarshal,
                            (not_not.mp hdomain).symm, Bool.not_eq_true _ ▸ hnow⟩, hverify⟩

/-- A license is valid when there is no reason against it. -/
theorem validate_iff {e : Evaluator τ} : e.validate.2 = true ↔ e.invalid = "" := by
  rw [Evaluator.validate]
  split
  · next h => exact iff_of_true rfl h
  · next h => exact iff_of_false Bool.false_ne_true h

/-- A text is only valid with a signature exactly when there is a public key, or when the text is
not valid at all. -/
theorem licensed_iff (hkey : key ≠ []) :
    p.Licensed publicKeys now key domain ↔
      publicKeys ≠ [] ∨ ¬ ∃ lic keyWoSig, p.Admits now key domain lic keyWoSig := by
  rw [Licensed, validate_iff]
  constructor
  · intro hlicensed
    by_contra hnot
    rw [not_or, not_not, not_not] at hnot
    rcases hnot with ⟨hkeys, lic, keyWoSig, hadmits⟩
    have hverify : p.verifyAny (p.sum256 keyWoSig) lic.signature publicKeys none = none :=
      verifyAny_eq_none_iff.mpr (Or.inl hkeys)
    have hvalid := newEvaluator_eq hkey hadmits hverify
    rcases hlicensed (by rw [hvalid]) with ⟨-, -, -, k, hk, -⟩
    rw [hkeys] at hk
    exact absurd hk List.not_mem_nil
  · intro hor hvalid
    rcases exists_admits_of_valid hkey hvalid with ⟨lic, keyWoSig, hadmits, hverify⟩
    have hkeys : publicKeys ≠ [] := hor.resolve_right (not_not.mpr ⟨lic, keyWoSig, hadmits⟩)
    exact ⟨lic, keyWoSig, hadmits, (verifyAny_eq_none_iff.mp hverify).resolve_left hkeys⟩

/-- What a signed text holds. -/
theorem exists_of_sign {random : ι} {l : LicensePayload τ} {priv : ρ} {text : List UInt8}
    (hsign : p.sign random l priv = .ok text) :
    ∃ rawl sig resl, p.marshal l = .ok rawl ∧
      p.signPKCS1v15 random priv (p.sum256 rawl) = .ok sig ∧
      p.marshalSigned ⟨l, sig⟩ = .ok resl ∧ text = Base64.encode resl := by
  unfold sign at hsign
  split at hsign
  · exact nomatch hsign
  · next rawl hmarshal =>
      split at hsign
      · exact nomatch hsign
      · next sig hsig =>
          split at hsign
          · exact nomatch hsign
          · next resl hresl =>
              exact ⟨rawl, sig, resl, hmarshal, hsig, hresl, (Except.ok.inj hsign).symm⟩

/-- What was signed with a listed key is valid for its domain until it ends, and holds what was
signed, up to the zone of its time. -/
theorem newEvaluator_sign (h : p.Dependable) {random : ι} {l : LicensePayload τ} {priv : ρ}
    {text : List UInt8} (hpriv : p.publicKey priv ∈ publicKeys)
    (hsign : p.sign random l priv = .ok text) (hnow : p.before l.validUntil now = false) :
    (p.newEvaluator publicKeys now text l.domain).validate = ("", true) ∧
      ∃ t, (p.newEvaluator publicKeys now text l.domain).inspect = { l with validUntil := t } ∧
        p.instant t = p.instant l.validUntil ∧
        p.marshal { l with validUntil := t } = p.marshal l := by
  rcases exists_of_sign hsign with ⟨rawl, sig, resl, hmarshal, hsig, hresl, rfl⟩
  rcases h.stable l sig resl hresl with ⟨t, hunmarshal, hinstant, hremarshal⟩
  have hkey : Base64.encode resl ≠ [] := by
    intro hnil
    have hdecode := Base64.decode_encode resl
    rw [hnil] at hdecode
    rcases h.unmarshal_nil with ⟨err, herr⟩
    rw [← Option.some.inj hdecode, herr] at hunmarshal
    exact nomatch hunmarshal
  have hadmits : p.Admits now (Base64.encode resl) l.domain
      ⟨{ l with validUntil := t }, sig⟩ rawl := by
    refine ⟨resl, Base64.decode_encode resl, hunmarshal, hremarshal.trans hmarshal, rfl, ?_⟩
    rw [before, hinstant]
    exact hnow
  have hverify : p.verifyAny (p.sum256 rawl) sig publicKeys none = none :=
    verifyAny_eq_none_iff.mpr (Or.inr ⟨_, hpriv, (h.verify_iff _ _ _).mpr
      ⟨priv, random, rfl, hsig⟩⟩)
  rw [newEvaluator_eq hkey hadmits hverify]
  exact ⟨rfl, t, rfl, hinstant, hremarshal⟩

/-- Evaluators are only valid for signed payloads exactly when there is a public key, or when
    the text is no payload for the domain that has not ended. What is signed with a listed key
    is valid in any case. Without keys the loop that verifies the signature is not entered, and
    its error is still the one of the step before, which is none. -/
theorem evaluates_iff (p : Primitives τ κ ρ ι) (h : p.Dependable) (publicKeys : List κ) (now : τ) :
    (∀ key domain, key ≠ [] → (p.Licensed publicKeys now key domain ↔
      publicKeys ≠ [] ∨ ¬ ∃ lic keyWoSig, p.Admits now key domain lic keyWoSig)) ∧
    ∀ random l priv text, p.publicKey priv ∈ publicKeys → p.sign random l priv = .ok text →
      p.before l.validUntil now = false →
        (p.newEvaluator publicKeys now text l.domain).validate = ("", true) ∧
        ∃ t, (p.newEvaluator publicKeys now text l.domain).inspect = { l with validUntil := t } ∧
          p.instant t = p.instant l.validUntil ∧
          p.marshal { l with validUntil := t } = p.marshal l :=
  ⟨fun _ _ => licensed_iff, fun _ _ _ _ => newEvaluator_sign h⟩

end Primitives

def toyLicense : LicensePayload Int := ⟨"4711", "nxpod.khulnasoft.com", 1, 100, 0⟩

/-- A toy that only knows one payload, and signs by putting the key before the hash. -/
def toyPrimitives : Primitives Int UInt8 UInt8 Unit where
  marshal := fun l => if l = toyLicense then .ok [123, 125] else .error "unsupported value"
  marshalSigned := fun s =>
    if s.toLicensePayload = toyLicense then .ok (123 :: s.signature)
    else .error "unsupported value"
  unmarshal := fun bytes => match bytes with
    | [] => .error "unexpected end of JSON input"
    | _ :: signature => .ok ⟨toyLicense, signature⟩
  sum256 := fun bytes => bytes
  verifyPKCS1v15 := fun k hashed signature =>
    if signature = k :: hashed then .ok () else .error "crypto/rsa: verification error"
  signPKCS1v15 := fun _ priv hashed => .ok (priv :: hashed)
  publicKey := fun priv => priv
  instant := fun t => t
  quote := fun err => "\"" ++ err ++ "\""
  corruptInput := fun _ => "illegal base64 data at input byte 0"
  defaultTime := 0

theorem toyPrimitives_dependable : toyPrimitives.Dependable where
  verify_iff := by
    intro k hashed signature
    dsimp only [toyPrimitives]
    by_cases h : signature = k :: hashed
    · rw [if_pos h]
      exact iff_of_true rfl ⟨k, (), rfl, by rw [h]⟩
    · rw [if_neg h]
      refine iff_of_false nofun ?_
      rintro ⟨priv, -, rfl, hsign⟩
      exact h (Except.ok.inj hsign).symm
  stable := by
    intro l signature text htext
    dsimp only [toyPrimitives] at htext
    by_cases hl : l = toyLicense
    · rw [if_pos hl] at htext
      refine ⟨l.validUntil, ?_, rfl, rfl⟩
      rw [← Except.ok.inj htext, hl]
      rfl
    · rw [if_neg hl] at htext
      exact nomatch htext
  unmarshal_nil := ⟨_, rfl⟩

/-- The second of two keys made the signature. -/
theorem evaluates_toy :
    (toyPrimitives.newEvaluator [9, 7] 50 (Base64.encode [123, 7, 123, 125])
      toyLicense.domain).validate = ("", true) :=
  ((toyPrimitives.evaluates_iff toyPrimitives_dependable [9, 7] 50).2 () toyLicense 7 _
    (by decide) rfl rfl).1

/-- Without public keys a payload is valid that nobody signed. -/
theorem unsigned_valid :
    ¬ toyPrimitives.Licensed [] 50 (Base64.encode [123]) toyLicense.domain := by
  rw [Primitives.licensed_iff (by decide)]
  rw [not_or, not_not, not_not]
  exact ⟨rfl, ⟨toyLicense, []⟩, [123, 125], [123], rfl, rfl, rfl, rfl, rfl⟩

end Licensor

end Nxpod
