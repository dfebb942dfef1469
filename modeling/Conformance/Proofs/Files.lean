import Conformance.CommandLine.Files
import Conformance.Proofs.Compiled

/-!
# Files before and after

A tree that is written to has the text at the path that was given, and at all other places the
files that it had. The directories that lead there may be new; none is lost. So whatever names led
to a place lead there still.
-/

namespace Conformance

namespace FileTree
variable {t t₁ t' : FileTree}

/-! ## Nodes -/

/-- The files of `t'` are those of `t`, and no directory of `t` is missing. -/
structure Keeps (t t' : FileTree) : Prop where
  files : ∀ place text, t'.node? place = some (.file text) ↔ t.node? place = some (.file text)
  directories : ∀ place, t.node? place = some .directory → t'.node? place = some .directory

/-- The text can be read at the path. All other files of `t'` are those of `t`, and no directory of
`t` is missing. -/
structure Gains (t t' : FileTree) (path text : String) : Prop where
  written : t'.read path = .ok text
  files : ∀ place, t'.place path ≠ .ok place → ∀ x, t'.node? place = some (.file x) ↔ t.node? place = some (.file x)
  directories : ∀ place, t.node? place = some .directory → t'.node? place = some .directory

theorem Keeps.refl (t : FileTree) : t.Keeps t := ⟨fun _ _ => .rfl, fun _ h => h⟩

theorem Keeps.trans (h : t.Keeps t₁) (h' : t₁.Keeps t') : t.Keeps t' where
  files place text := (h'.files place text).trans (h.files place text)
  directories place hp := h'.directories place (h.directories place hp)

end FileTree

end Conformance
