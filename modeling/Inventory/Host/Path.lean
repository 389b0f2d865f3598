/-!
# File paths

Slash-separated paths and their algebra:

* `clean` gives the shortest equivalent path: repeated slashes become one, `.` elements go,
  `..` removes the element before it (at the root it is dropped, in a relative path with
  nothing before it it stays), and a trailing slash goes; the empty path is `.`;
* `join` joins the non-empty elements with slashes and cleans the result;
* `dir` is the path up to its last slash, cleaned; `base` is what follows that slash;
* `abs` joins a relative path to a working directory; an absolute path is only cleaned.
-/

set_option autoImplicit false

namespace Inventory.Path

/-- The path starts at the root. -/
def isAbs (p : String) : Bool := p.startsWith "/"

/-- Fold one element into the elements kept so far (newest first). -/
def pushElement (rooted : Bool) (acc : List String) (e : String) : List String :=
  if e.isEmpty || e == "." then acc
  else if e == ".." then
    match acc with
    | x :: rest => if x == ".." then e :: acc else rest
    | [] => if rooted then [] else [e]
  else e :: acc

/-- **The shortest equivalent path.** -/
def clean (p : String) : String :=
  if p.isEmpty then "."
  else
    let rooted := isAbs p
    let kept := ((p.splitOn "/").foldl (pushElement rooted) []).reverse
    let body := "/".intercalate kept
    if rooted then "/" ++ body
    else if body.isEmpty then "."
    else body

/-- **Joining** elements: the non-empty ones, slash-separated, cleaned; empty if all are. -/
def join (elems : List String) : String :=
  let parts := elems.filter (!·.isEmpty)
  if parts.isEmpty then "" else clean ("/".intercalate parts)

/-- The path up to its last slash, cleaned. -/
def dir (p : String) : String :=
  let cs := p.toList
  let upto := (cs.reverse.dropWhile (· != '/')).reverse
  clean (String.ofList upto)

/-- The last element of a path. -/
def base (p : String) : String :=
  if p.isEmpty then "."
  else
    let cs := (p.toList.reverse.dropWhile (· == '/')).reverse
    if cs.isEmpty then "/"
    else String.ofList (cs.reverse.takeWhile (· != '/')).reverse

/-- The elements of an absolute, clean path, root first. -/
def elements (p : String) : List String := (p.splitOn "/").filter (!·.isEmpty)

/-- **An absolute path** for `p`, relative paths taken from the working directory `cwd`. -/
def abs (cwd : String) (p : String) : String :=
  if isAbs p then clean p else join [cwd, p]

end Inventory.Path
