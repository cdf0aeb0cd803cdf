/-! Reading UTF-8. A text that is not well formed is refused at the first byte of its first sequence
that is none. -/

namespace FermRules.Text

/-- Appends to `read` what the bytes from `start` on spell, or gives the offset of the fault. -/
def decodeUtf8From (bytes : ByteArray) (start : Nat) (read : String) : Except Nat String :=
  if start < bytes.size then
    match bytes.utf8DecodeChar? start with
    | some c => decodeUtf8From bytes (start + c.utf8Size) (read.push c)
    | none => .error start
  else .ok read
termination_by bytes.size - start
decreasing_by
  have := c.utf8Size_pos
  omega

def decodeUtf8 (bytes : ByteArray) : Except Nat String := decodeUtf8From bytes 0 ""

end FermRules.Text
