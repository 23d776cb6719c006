import HttpEngine.Address.Text
import HttpEngine.Proofs.Bytes.Text

/-!
# The text of an address has no blanks

Addresses are put together from numbers, points, colons and brackets. So the text of an
address can stand between blanks and be found again, whatever version it has, and
whether or not it names a scope.
-/

namespace HttpEngine

theorem Ipv4.solid_text (ip : Ipv4) : (Bytes.ofText ip.text).Solid := by
  refine Bytes.solid_intercalate (by decide) fun part hpart => ?_
  obtain ⟨n, -, rfl⟩ := List.mem_map.mp hpart
  exact Bytes.solid_toString n.toNat

namespace Ipv6

theorem solid_joinGroups (groups : List UInt16) : (Bytes.ofText (joinGroups groups)).Solid := by
  refine Bytes.solid_intercalate (by decide) fun part hpart => ?_
  obtain ⟨g, -, rfl⟩ := List.mem_map.mp hpart
  exact Bytes.solid_toDigits (by decide) (by decide) g.toNat

theorem solid_text (ip : Ipv6) : (Bytes.ofText ip.text).Solid := by
  unfold text
  split
  · next inner hinner =>
      rw [Bytes.ofText_append]
      exact Bytes.Solid.append (by decide) inner.solid_text
  · dsimp only
    split
    · rw [Bytes.ofText_append, Bytes.ofText_append]
      exact ((solid_joinGroups _).append (by decide)).append (solid_joinGroups _)
    · exact solid_joinGroups _

end Ipv6

namespace SocketAddress

theorem solid_text (address : SocketAddress) : (Bytes.ofText address.text).Solid := by
  cases address with
  | v4 ip port =>
      rw [text, Bytes.ofText_append, Bytes.ofText_append]
      exact (ip.solid_text.append (by decide)).append (Bytes.solid_toString _)
  | v6 ip port scope =>
      have hzone :
          (Bytes.ofText (if scope = 0 then "" else "%" ++ toString scope.toNat)).Solid := by
        split
        · decide
        · rw [Bytes.ofText_append]
          exact Bytes.Solid.append (by decide) (Bytes.solid_toString _)
      simp only [text, Bytes.ofText_append]
      have hopen : (Bytes.ofText "[").Solid := by decide
      have hclose : (Bytes.ofText "]:").Solid := by decide
      exact
        (((hopen.append ip.solid_text).append hzone).append hclose).append
          (Bytes.solid_toString _)

theorem ofText_text_ne_nil (address : SocketAddress) : Bytes.ofText address.text ≠ [] := by
  have hcolon : Bytes.ofText ":" ≠ [] := by decide
  have hclose : Bytes.ofText "]:" ≠ [] := by decide
  cases address <;> simp [text, hcolon, hclose]

end SocketAddress
end HttpEngine
