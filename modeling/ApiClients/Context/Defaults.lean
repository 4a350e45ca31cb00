import ApiClients.Settings.Basic

/-!
# Generations of defaults

The defaults of a context can be edited, and they can be exchanged for others as a whole. An exchange
begins a new generation: the settings before it stay as they were, for those who hold on to them, and
only the latest generation can be edited.
-/

namespace ApiClients

/-- The generations of defaults. -/
structure Defaults where
  current : Settings := ∅
  /-- The settings of the generations before, the earliest first. -/
  retired : List Settings := []

namespace Defaults

/-- The number of the latest generation. -/
def generation (d : Defaults) : Nat :=
  d.retired.length

/-- The settings of a generation; those of the latest if there is none with the number. -/
def settingsOf (d : Defaults) (generation : Nat) : Settings :=
  (d.retired[generation]?).getD d.current

/-- Edits the latest generation. -/
def edit (d : Defaults) (f : Settings → Settings) : Defaults :=
  { d with current := f d.current }

/-- Begins a new generation. -/
def exchange (d : Defaults) (s : Settings) : Defaults where
  current := s
  retired := d.retired ++ [d.current]

end Defaults

end ApiClients
