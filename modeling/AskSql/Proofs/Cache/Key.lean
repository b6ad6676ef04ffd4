import Mathlib.Algebra.Ring.Nat
import Mathlib.Data.List.Basic
import AskSql.Pipeline.Run
import AskSql.Proofs.Schema

namespace AskSql

namespace Bytes

theorem littleEndian_inj {width m n : Nat} (hm : m < 256 ^ width) (hn : n < 256 ^ width)
    (h : littleEndian width m = littleEndian width n) : m = n := by
  induction width generalizing m n with
  | zero =>
    rw [Nat.pow_zero] at hm hn
    omega
  | succ width ih =>
    obtain ⟨hlow, hhigh⟩ := List.cons.inj h
    have hmod : m % 256 = n % 256 := by
      simpa [UInt8.toNat_ofNat'] using congrArg UInt8.toNat hlow
    have hdiv : m / 256 = n / 256 := by
      apply ih _ _ hhigh
      · rwa [Nat.div_lt_iff_lt_mul (by decide), ← Nat.pow_succ]
      · rwa [Nat.div_lt_iff_lt_mul (by decide), ← Nat.pow_succ]
    omega

theorem ofText_injective : Function.Injective ofText := by
  intro s t h
  exact String.toByteArray_inj.1 (ByteArray.ext (Array.toList_inj.1 h))

theorem digitChar_inj {m n : Nat} (hm : m < 16) (hn : n < 16)
    (h : Nat.digitChar m = Nat.digitChar n) : m = n := by
  have hall : ∀ m < 16, ∀ n < 16, Nat.digitChar m = Nat.digitChar n → m = n := by decide
  exact hall m hm n hn h

theorem hex_injective : Function.Injective hex := by
  intro s t h
  induction s generalizing t with
  | nil =>
    cases t with
    | nil => rfl
    | cons b t => simp [hex] at h
  | cons a s ih =>
    cases t with
    | nil => simp [hex] at h
    | cons b t =>
      have h := String.ofList_injective h
      simp only [List.flatMap_cons, List.cons_append, List.nil_append, List.cons.injEq] at h
      obtain ⟨hhigh, hlow, hrest⟩ := h
      have ha := a.toNat_lt
      have hb := b.toNat_lt
      have hhigh := digitChar_inj (by omega) (by omega) hhigh
      have hlow := digitChar_inj (by omega) (by omega) hlow
      have hab : a.toNat = b.toNat := by omega
      rw [UInt8.toNat_inj.1 hab, ih (congrArg String.ofList hrest)]

end Bytes

namespace CacheKey

def IsShort (s : String) : Prop := (Bytes.ofText s).length < 256 ^ 8

instance (s : String) : Decidable (IsShort s) := Nat.decLt ..

theorem part_append_inj {a b : String} (ha : IsShort a) (hb : IsShort b) {s t : List UInt8}
    (h : part a ++ s = part b ++ t) : a = b ∧ s = t := by
  simp only [part, List.append_assoc] at h
  obtain ⟨hlength, htext⟩ := List.append_inj h (by simp)
  obtain ⟨hbytes, hrest⟩ := List.append_inj htext (Bytes.littleEndian_inj ha hb hlength)
  exact ⟨Bytes.ofText_injective hbytes, hrest⟩

theorem part_ne_nil (a : String) (s : List UInt8) : part a ++ s ≠ [] := by
  simp [part, Bytes.littleEndian]

theorem flatMap_part_inj {as bs : List String} (ha : ∀ a ∈ as, IsShort a) (hb : ∀ b ∈ bs, IsShort b)
    (h : as.flatMap part = bs.flatMap part) : as = bs := by
  induction as generalizing bs with
  | nil =>
    cases bs with
    | nil => rfl
    | cons b bs => exact absurd h.symm (part_ne_nil b _)
  | cons a as ih =>
    cases bs with
    | nil => exact absurd h (part_ne_nil a _)
    | cons b bs =>
      obtain ⟨rfl, hrest⟩ := part_append_inj (ha a (by simp)) (hb b (by simp)) h
      rw [ih (fun a h => ha a (by simp [h])) (fun b h => hb b (by simp [h])) hrest]

end CacheKey

theorem Policy.ofReadOnly_injective : Function.Injective Policy.ofReadOnly := by
  have hall : ∀ a b, ofReadOnly a = ofReadOnly b → a = b := by decide
  exact hall

theorem Policy.name_injective : Function.Injective Policy.name := by
  intro p q h
  cases p with
  | readOnly =>
    cases q with
    | readOnly => rfl
    | limitedWrite => exact absurd h (by decide)
  | limitedWrite =>
    cases q with
    | readOnly => exact absurd h (by decide)
    | limitedWrite => rfl

namespace CacheKey

theorem isShort_name (p : Policy) : IsShort p.name := by
  cases p with
  | readOnly => decide
  | limitedWrite => decide

theorem material_inj {c₁ c₂ q₁ q₂ f₁ f₂ : String} {p₁ p₂ : Policy}
    (h₁ : ∀ a ∈ [c₁, q₁, f₁], IsShort a) (h₂ : ∀ a ∈ [c₂, q₂, f₂], IsShort a)
    (h : material c₁ q₁ f₁ p₁ = material c₂ q₂ f₂ p₂) :
    c₁ = c₂ ∧ q₁ = q₂ ∧ f₁ = f₂ ∧ p₁ = p₂ := by
  have hshort {c q f : String} (p : Policy) (h : ∀ a ∈ [c, q, f], IsShort a) :
      ∀ a ∈ [c, q, f, p.name], IsShort a := by
    simp only [List.forall_mem_cons] at h ⊢
    exact ⟨h.1, h.2.1, h.2.2.1, isShort_name p, nofun⟩
  have hparts := flatMap_part_inj (hshort p₁ h₁) (hshort p₂ h₂) h
  simp only [List.cons.injEq, and_true] at hparts
  obtain ⟨rfl, rfl, rfl, hpolicy⟩ := hparts
  exact ⟨rfl, rfl, rfl, Policy.name_injective hpolicy⟩

/-- A key tells its inputs from any others, so far as the digest tells the digested bytes apart. -/
theorem inputs_eq {c₁ c₂ q₁ q₂ : String} {s₁ s₂ : Schema} (p₁ p₂ : Policy)
    (h₁ : ∀ a ∈ [c₁, q₁, s₁.fingerprint], IsShort a)
    (h₂ : ∀ a ∈ [c₂, q₂, s₂.fingerprint], IsShort a) :
    let m₁ := material c₁ q₁ s₁.fingerprint p₁
    let m₂ := material c₂ q₂ s₂.fingerprint p₂
    (m₁ = m₂ → c₁ = c₂ ∧ q₁ = q₂ ∧ s₁ = s₂ ∧ p₁ = p₂) ∧
      ((Sha256.digest m₁ = Sha256.digest m₂ → m₁ = m₂) →
        key c₁ q₁ s₁.fingerprint p₁ = key c₂ q₂ s₂.fingerprint p₂ →
        c₁ = c₂ ∧ q₁ = q₂ ∧ s₁ = s₂ ∧ p₁ = p₂) := by
  intro m₁ m₂
  have hmaterial (h : m₁ = m₂) : c₁ = c₂ ∧ q₁ = q₂ ∧ s₁ = s₂ ∧ p₁ = p₂ := by
    obtain ⟨rfl, rfl, hfingerprint, rfl⟩ := material_inj h₁ h₂ h
    exact ⟨rfl, rfl, Schema.fingerprint_injective hfingerprint, rfl⟩
  refine ⟨hmaterial, fun hdigest hkey => hmaterial (hdigest ?_)⟩
  exact Bytes.hex_injective hkey

theorem inputs_eq_keyless :
    let users (key : Option (List String)) : Schema :=
      ⟨[{ name := "users", columns := [], primaryKey := key }]⟩
    let bare := (users none).fingerprint
    let keyed := (users (some [])).fingerprint
    (∀ a ∈ ["shop", "Who?", bare], IsShort a) ∧ (∀ a ∈ ["shop", "Who?", keyed], IsShort a) ∧
      material "shop" "Who?" bare .readOnly ≠ material "shop" "Who?" keyed .readOnly ∧
      key "shop" "Who?" bare .readOnly ≠ key "shop" "Who?" keyed .readOnly := by
  intro users bare keyed
  have hbare : ∀ a ∈ ["shop", "Who?", bare], IsShort a := by decide +kernel
  have hkeyed : ∀ a ∈ ["shop", "Who?", keyed], IsShort a := by decide +kernel
  have hdigest : Sha256.digest (material "shop" "Who?" bare .readOnly) ≠
      Sha256.digest (material "shop" "Who?" keyed .readOnly) := by decide +kernel
  have hschema : users none ≠ users (some []) := by decide
  obtain ⟨hmaterial, hkey⟩ := inputs_eq .readOnly .readOnly hbare hkeyed
  exact ⟨hbare, hkeyed, fun h => hschema (hmaterial h).2.2.1,
    fun h => hschema (hkey (fun hd => absurd hd hdigest) h).2.2.1⟩

end CacheKey

namespace Request

def keyParts (r : Request) : List String :=
  [r.connection, r.question, r.schema.fingerprint, r.policy.name]

def keyMaterial (r : Request) : List UInt8 := r.keyParts.flatMap CacheKey.part

theorem key_eq (r : Request) : r.key = Bytes.hex (Sha256.digest r.keyMaterial) := rfl

/-- No two of the requests owe it to the digest alone that they have one key. -/
structure Distinguished (rs : List Request) : Prop where
  short : ∀ r ∈ rs, ∀ a ∈ r.keyParts, CacheKey.IsShort a
  digest : ∀ r ∈ rs, ∀ r' ∈ rs, Sha256.digest r.keyMaterial = Sha256.digest r'.keyMaterial →
    r.keyMaterial = r'.keyMaterial

/-- The requests have the same fields as far as the key goes. -/
structure Matches (r r' : Request) : Prop where
  connection : r.connection = r'.connection
  question : r.question = r'.question
  schema : r.schema = r'.schema
  readOnly : r.readOnly = r'.readOnly

instance (r r' : Request) : Decidable (r.Matches r') :=
  decidable_of_iff (_ ∧ _ ∧ _ ∧ _)
    ⟨fun h => ⟨h.1, h.2.1, h.2.2.1, h.2.2.2⟩, fun h => ⟨h.1, h.2, h.3, h.4⟩⟩

theorem Matches.key_eq {r r' : Request} (h : r.Matches r') : r.key = r'.key := by
  obtain ⟨hconnection, hquestion, hschema, hreadOnly⟩ := h
  rw [key, key, policy, policy, hconnection, hquestion, hschema, hreadOnly]

theorem Distinguished.matches_of_key_eq {rs : List Request} (h : Distinguished rs) {r r' : Request}
    (hr : r ∈ rs) (hr' : r' ∈ rs) (hkey : r.key = r'.key) : r.Matches r' := by
  have hshort {r : Request} (hr : r ∈ rs) :
      ∀ a ∈ [r.connection, r.question, r.schema.fingerprint], CacheKey.IsShort a :=
    fun a ha => h.short r hr a (List.mem_append_left [r.policy.name] ha)
  rw [key_eq, key_eq] at hkey
  have hmaterial := h.digest r hr r' hr' (Bytes.hex_injective hkey)
  obtain ⟨hconnection, hquestion, hfingerprint, hpolicy⟩ :=
    CacheKey.material_inj (hshort hr) (hshort hr') hmaterial
  exact ⟨hconnection, hquestion, Schema.fingerprint_injective hfingerprint,
    Policy.ofReadOnly_injective hpolicy⟩

end Request

end AskSql
