import StaticSite.Path.Basic

/-!
# Normal form of paths

The normal form of a path resolves `.` and `..` by the text alone. A path from the root keeps no
`..` at all; another path keeps only those at its front that have nothing to take back.
-/

namespace StaticSite.Path

/-- A path in the making: whether it begins at the root, and its components, the last one
first. -/
structure Trail where
  /-- Whether the path begins at the root. -/
  rooted : Bool
  /-- The components so far, the last one first. -/
  names : List Component
  deriving DecidableEq, Repr

/-- The trail after one more component. -/
def Trail.step (trail : Trail) : Component → Trail
  | .root => { trail with rooted := true }
  | .current => trail
  | .normal name => { trail with names := .normal name :: trail.names }
  | .parent =>
    match trail.names with
    | .normal _ :: rest => { trail with names := rest }
    | names => if trail.rooted then trail else { trail with names := .parent :: names }

/-- The trail of a list of components. -/
def Trail.ofComponents (components : List Component) : Trail :=
  components.foldl Trail.step ⟨false, []⟩

/-- The path of a trail. -/
def Trail.toPath (trail : Trail) : Path :=
  let names := String.intercalate "/" (trail.names.reverse.map Component.text)
  if trail.rooted then ⟨"/" ++ names⟩ else ⟨names⟩

/-- The path with `.` and `..` resolved by the text alone. -/
def normalize (path : Path) : Path := (Trail.ofComponents path.components).toPath

end StaticSite.Path
