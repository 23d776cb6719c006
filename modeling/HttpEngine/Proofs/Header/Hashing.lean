import HttpEngine.Header.Name

/-!
# Hashing names

A hash function is told a name by writes, and `recording` keeps the writes that are made to
any hash function beside its state. Whatever the hash function and its state are, a name
makes the same writes: one of its length, then one of each folded byte.

So the writes fit the equality of names. Equal names make the same writes. Names that are
not equal are told apart by the writes alone, and before the writes of either end: a name
of another length differs in the first write, and where the lengths are the same neither
list of writes can go on where the other ends.
-/

namespace HttpEngine

universe u

/-- A write to a hash function. -/
inductive HashWrite where
  | size (n : Nat)
  | byte (b : UInt8)
deriving DecidableEq

/-- The hash function with the writes that were made to it, in order, beside its state. -/
def Hasher.recording {σ : Type u} (hasher : Hasher σ) : Hasher (σ × List HashWrite) where
  writeSize state n := (hasher.writeSize state.1 n, state.2 ++ [.size n])
  writeByte state b := (hasher.writeByte state.1 b, state.2 ++ [.byte b])

/-- Bytes are recorded one by one, and recording them does not change what is made of
them. -/
theorem Hasher.foldl_recording
    {σ : Type u} (hasher : Hasher σ) (bytes : Bytes) (state : σ) (writes : List HashWrite) :
    bytes.foldl hasher.recording.writeByte (state, writes) =
      (bytes.foldl hasher.writeByte state, writes ++ bytes.map .byte) := by
  induction bytes generalizing state writes with
  | nil => simp
  | cons b bytes ih =>
      rw [List.foldl_cons, List.foldl_cons, List.map_cons, List.append_cons]
      exact ih (hasher.writeByte state b) (writes ++ [.byte b])

namespace Bytes

/-- One length, and byte by byte the same but for the case of letters. -/
structure SameButForCase (a b : Bytes) : Prop where
  length_eq : a.length = b.length
  fold_eq : ∀ (place : Nat) (ha : place < a.length) (hb : place < b.length),
    fold a[place] = fold b[place]

theorem sameButForCase_iff {a b : Bytes} :
    SameButForCase a b ↔ a.map fold = b.map fold := by
  constructor
  · intro hsame
    refine List.ext_getElem (by simpa using hsame.length_eq) ?_
    intro place ha hb
    rw [List.length_map] at ha hb
    rw [List.getElem_map, List.getElem_map]
    exact hsame.fold_eq place ha hb
  · intro hfold
    have hlength : a.length = b.length := by
      simpa using congrArg List.length hfold
    refine ⟨hlength, fun place ha hb => ?_⟩
    have hplace := congrArg (fun bytes : Bytes => bytes[place]?) hfold
    simpa [ha, hb] using hplace

end Bytes

namespace HeaderName

section Writes

variable {σ : Type u} (hasher : Hasher σ) (state : σ)

/-- The writes that a name makes to a hash function. -/
def writesTo (name : HeaderName) : List HashWrite :=
  (name.hashInto hasher.recording (state, [])).2

theorem hashInto_recording (name : HeaderName) :
    name.hashInto hasher.recording (state, []) =
      (name.hashInto hasher state,
        .size name.bytes.length :: (name.bytes.map Bytes.fold).map .byte) := by
  rw [hashInto_eq, hashInto_eq]
  exact hasher.foldl_recording _ _ _

/-- The writes of a name do not depend on what is made of them. -/
theorem writesTo_eq (name : HeaderName) :
    name.writesTo hasher state =
      .size name.bytes.length :: (name.bytes.map Bytes.fold).map .byte := by
  rw [writesTo, hashInto_recording]

/-- The writes of `Hi` are those of `hi`. -/
example : writesTo .mixing 7 ⟨[72, 105]⟩ = [.size 2, .byte 104, .byte 105] := by
  decide

/-- Only equal names make writes that begin the writes of one another. -/
theorem writesTo_prefix_iff {a b : HeaderName} :
    a.writesTo hasher state <+: b.writesTo hasher state ↔ (a == b) = true := by
  rw [writesTo_eq, writesTo_eq, List.cons_prefix_cons]
  constructor
  · rintro ⟨hsize, hfront⟩
    -- The first writes are the lengths, so the beginning is already the whole.
    have hlength : a.bytes.length = b.bytes.length := HashWrite.size.inj hsize
    have hbytes := hfront.eq_of_length (by simpa using hlength)
    have hfold := (List.map_inj_right fun _ _ => HashWrite.byte.inj).mp hbytes
    exact beq_iff.mpr hfold
  · intro h
    rw [length_eq_of_beq h, beq_iff.mp h]
    exact ⟨rfl, List.prefix_refl _⟩

end Writes

/-- Names are equal if they have one length and the same bytes but for the case of letters,
and that is an equivalence. Whatever the hash function is and whatever state it is in,
equal names make the same writes to it and leave it in the same state; names that are not
equal make different writes, and neither makes writes that begin those of the other. -/
theorem equality_fits_hashing :
    Equivalence (fun a b : HeaderName => (a == b) = true) ∧
      ∀ a b : HeaderName,
        ((a == b) = true ↔ Bytes.SameButForCase a.bytes b.bytes) ∧
          ∀ {σ : Type u} (hasher : Hasher σ) (state : σ),
            ((a == b) = true →
              a.writesTo hasher state = b.writesTo hasher state ∧
                a.hashInto hasher state = b.hashInto hasher state) ∧
            ((a == b) = false →
              a.writesTo hasher state ≠ b.writesTo hasher state ∧
                ¬ a.writesTo hasher state <+: b.writesTo hasher state ∧
                ¬ b.writesTo hasher state <+: a.writesTo hasher state) := by
  refine ⟨⟨fun _ => BEq.rfl, BEq.symm, BEq.trans⟩, fun a b => ⟨?_, fun hasher state => ?_⟩⟩
  · rw [beq_iff, Bytes.sameButForCase_iff]
  · constructor
    · intro hequal
      exact ⟨congrArg Prod.snd (hashInto_congr hasher.recording (state, []) hequal),
        hashInto_congr hasher state hequal⟩
    · intro hdiffer
      have hfront : ¬ a.writesTo hasher state <+: b.writesTo hasher state := by
        rw [writesTo_prefix_iff, hdiffer]
        exact Bool.false_ne_true
      have hback : ¬ b.writesTo hasher state <+: a.writesTo hasher state := by
        rw [writesTo_prefix_iff, BEq.comm, hdiffer]
        exact Bool.false_ne_true
      exact ⟨fun hsame => hfront (hsame ▸ List.prefix_refl _), hfront, hback⟩

end HeaderName
end HttpEngine
