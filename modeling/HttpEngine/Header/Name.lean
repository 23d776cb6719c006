import HttpEngine.Bytes.Fold
import HttpEngine.Text.Quoted
import HttpEngine.Text.Utf8

/-!
# Header names

A header name keeps its spelling, but the case of ASCII letters does not count:
two names are the same name when their bytes agree once folded. What a name
gives to a hash function is chosen to fit: first its length, then its folded
bytes one by one, so equal names leave every hash function in the same state.
-/

namespace HttpEngine

universe u

/-- A header name as it was spelled. -/
structure HeaderName where
  bytes : Bytes
deriving Repr

/-- A hash function: what it makes of a length and of a byte in each of its states. -/
structure Hasher (σ : Type u) where
  writeSize : σ → Nat → σ
  writeByte : σ → UInt8 → σ

/-- The hash function of the indexes. -/
def Hasher.mixing : Hasher UInt64 where
  writeSize state n := mixHash state (hash n)
  writeByte state b := mixHash state (hash b)

namespace HeaderName

/-- Equality of names. -/
def same (a b : HeaderName) : Bool :=
  a.bytes.sameFolded b.bytes

instance : BEq HeaderName := ⟨same⟩

/-- Equal names have equal folded forms. -/
theorem beq_iff {a b : HeaderName} :
    (a == b) = true ↔ a.bytes.map Bytes.fold = b.bytes.map Bytes.fold :=
  Bytes.sameFolded_iff

/-- Equal names are spelled with the same number of bytes. -/
theorem length_eq_of_beq {a b : HeaderName} (h : (a == b) = true) :
    a.bytes.length = b.bytes.length := by
  simpa using congrArg List.length (beq_iff.mp h)

instance : EquivBEq HeaderName where
  rfl := beq_iff.mpr rfl
  symm h := beq_iff.mpr (beq_iff.mp h).symm
  trans h₁ h₂ := beq_iff.mpr ((beq_iff.mp h₁).trans (beq_iff.mp h₂))

/-- The state that a name takes a hash function to. -/
def hashInto
    {σ : Type u} (hasher : Hasher σ) (state : σ) (name : HeaderName) : σ :=
  name.bytes.foldl (fun state b => hasher.writeByte state (Bytes.foldAt b))
    (hasher.writeSize state name.bytes.length)

instance : Hashable HeaderName := ⟨hashInto .mixing 7⟩

/-- The bytes that are given to a hash function are those of the folded form. -/
theorem hashInto_eq
    {σ : Type u} (hasher : Hasher σ) (state : σ) (name : HeaderName) :
    name.hashInto hasher state =
      (name.bytes.map Bytes.fold).foldl hasher.writeByte
        (hasher.writeSize state name.bytes.length) := by
  simp only [hashInto, Bytes.foldAt_eq, List.foldl_map]

/-- Equal names take a hash function to the same state. -/
theorem hashInto_congr
    {σ : Type u} (hasher : Hasher σ) (state : σ) {a b : HeaderName}
    (h : (a == b) = true) :
    a.hashInto hasher state = b.hashInto hasher state := by
  rw [hashInto_eq, hashInto_eq, beq_iff.mp h, length_eq_of_beq h]

instance : LawfulHashable HeaderName where
  hash_eq _ _ h := hashInto_congr .mixing 7 h

/-- The name as quoted text. -/
def quoted (name : HeaderName) : String :=
  Text.quoted (Utf8.readLossy name.bytes)

end HeaderName
end HttpEngine
