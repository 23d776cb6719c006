import HttpEngine.Proofs.Bytes.Text
import HttpEngine.Reply

/-!
# A payload is the concatenation of its parts

What a part appends does not depend on what has been written before. So a payload that is put
together from parts consists of what the parts make alone, one after the other, and it can be
cut between any two of them.

A text has the bytes of its characters, and formatted text those of its pieces. So it makes no
difference in how many steps a text is written.
-/

namespace HttpEngine
namespace Bytes

/-- The bytes of a text are those of its characters. -/
theorem ofText_eq_flatMap (text : String) :
    ofText text = text.toList.flatMap String.utf8EncodeChar := by
  conv_lhs => rw [← String.ofList_toList (s := text)]
  rw [ofText, String.toUTF8_eq_toByteArray, String.toByteArray_ofList]
  simp [List.utf8Encode]

theorem ofText_join (pieces : List String) :
    ofText (String.join pieces) = pieces.flatMap ofText := by
  induction pieces with
  | nil => rfl
  | cons piece pieces ih => rw [String.join_cons, ofText_append, ih, List.flatMap_cons]

end Bytes

namespace Part

/-- What a part makes alone. -/
def alone (part : Part) : Bytes :=
  part.write []

theorem writeSigned_eq_append (value : BitVec 128) (written : Bytes) :
    writeSigned value written = written ++ writeSigned value [] := by
  rw [writeSigned, writeSigned, writeUnsigned, writeUnsigned]
  split
  · rw [List.nil_append, List.append_assoc]
  · rw [List.nil_append]

/-- A part is appended to what has been written, whatever that is. -/
theorem write_eq_append (part : Part) (written : Bytes) :
    part.write written = written ++ part.alone := by
  cases part with
  | text value => rfl
  | bytes value => rfl
  | unsigned width value => rfl
  | signed width value => exact writeSigned_eq_append _ written
  | flag value => cases value <;> rfl
  | char value => rfl
  | formatted pieces =>
      rw [alone, write, write, List.foldl_append_eq_append, List.foldl_append_eq_append,
        List.nil_append]

/-- Parts are appended one after the other. -/
theorem writeAll_eq_append (parts : List Part) (written : Bytes) :
    writeAll parts written = written ++ parts.flatMap alone := by
  induction parts generalizing written with
  | nil => exact (List.append_nil written).symm
  | cons part parts ih =>
      rw [writeAll, List.foldl_cons, ← writeAll, ih, write_eq_append, List.flatMap_cons,
        List.append_assoc]

/-- The characters of a text make the text. -/
theorem flatMap_alone_chars (text : String) :
    (text.toList.map char).flatMap alone = (Part.text text).alone := by
  rw [List.flatMap_map]
  exact (Bytes.ofText_eq_flatMap text).symm

/-- The pieces of formatted text make the text. -/
theorem alone_formatted (pieces : List String) :
    (formatted pieces).alone = (Part.text (String.join pieces)).alone := by
  have htext : (Part.text (String.join pieces)).alone = Bytes.ofText (String.join pieces) := rfl
  rw [htext, Bytes.ofText_join, alone, write, ← List.flatMap_eq_foldl]

end Part

namespace Reply

theorem payload_ofPart (status : Status) (part : Part) :
    (ofPart status part).payload = some part.alone :=
  rfl

theorem payload_ofParts (status : Status) (parts : List Part) :
    (ofParts status parts).payload = some (parts.flatMap Part.alone) := by
  rw [ofParts, Part.writeAll_eq_append, List.nil_append]

/-- The payload of some parts is the concatenation of the payloads of the parts alone, in their
order. It can be cut between any two parts, it is empty but there if there are no parts, and
it does not matter whether a text is written as a whole, in its characters or in pieces. -/
theorem payload_concatenates_parts (status : Status) (parts : List Part) :
    (∃ payloads : List Bytes,
        parts.map (fun part => (ofPart status part).payload) = payloads.map some ∧
          (ofParts status parts).payload = some payloads.flatten) ∧
      (∀ front back, ∃ first second,
        (ofParts status front).payload = some first ∧
          (ofParts status back).payload = some second ∧
          (ofParts status (front ++ back)).payload = some (first ++ second)) ∧
      (ofParts status []).payload = some [] ∧
      (∀ text : String,
        (ofParts status (text.toList.map .char)).payload =
          (ofPart status (.text text)).payload) ∧
      ∀ pieces : List String,
        (ofPart status (.formatted pieces)).payload =
          (ofPart status (.text (String.join pieces))).payload := by
  refine ⟨⟨parts.map Part.alone, ?_, ?_⟩, fun front back => ?_, rfl, fun text => ?_,
    fun pieces => ?_⟩
  · rw [List.map_map]
    rfl
  · rw [payload_ofParts, List.flatMap_def]
  · refine ⟨_, _, payload_ofParts status front, payload_ofParts status back, ?_⟩
    rw [payload_ofParts, List.flatMap_append]
  · rw [payload_ofParts, payload_ofPart, Part.flatMap_alone_chars]
  · rw [payload_ofPart, payload_ofPart, Part.alone_formatted]

end Reply
end HttpEngine
