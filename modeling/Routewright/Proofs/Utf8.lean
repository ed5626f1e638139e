import Mathlib.Tactic.SplitIfs
import Routewright.Text.Utf8

/-!
# The bytes of a text

A text has as many bytes as its size says (`length_encodeUtf8`), so only the empty text has none.
-/

namespace Routewright.Text

/-- Listing bytes from an index on adds those that are left to what is listed already. -/
theorem length_toList_loop (bytes : ByteArray) (i : Nat) (listed : List UInt8) :
    (ByteArray.toList.loop bytes i listed).length = listed.length + (bytes.size - i) := by
  rw [ByteArray.toList.loop]
  split_ifs with hi
  · rw [length_toList_loop bytes (i + 1), List.length_cons]
    omega
  · rw [List.length_reverse]
    omega
termination_by bytes.size - i

/-- The size of a text is the number of its bytes. -/
theorem length_encodeUtf8 (s : String) : (encodeUtf8 s).length = s.utf8ByteSize := by
  rw [encodeUtf8, ByteArray.toList, length_toList_loop, List.length_nil, Nat.zero_add]
  rfl

theorem encodeUtf8_eq_nil_iff {s : String} : encodeUtf8 s = [] ↔ s = "" := by
  rw [← List.length_eq_zero_iff, length_encodeUtf8, String.utf8ByteSize_eq_zero_iff]

end Routewright.Text
