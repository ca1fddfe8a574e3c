import ServerActions.Loading.File
import ServerActions.Loading.Url

/-!
# Loading descriptions

## Main definitions

* `load` — the description at a source, which is a URL or the path of a file.
-/

namespace ServerActions.Loading

open Description (Document)

/-- The description at a source, which is a URL or the path of a file taken from `base`. -/
def load (fetch : Fetch) (t : Files.Tree) (cwd : Files.Trail) (base : Files.Path)
    (source : String) : Except Failure Document :=
  if Network.isWebUrl source then fromUrl fetch source else fromFile t cwd base source

end ServerActions.Loading
