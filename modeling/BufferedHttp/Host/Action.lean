import BufferedHttp.Error

/-!
# Actions on a host

An action changes the state of a host, its world, and yields a result or an error. The world
keeps its changes when an action fails, so whatever is held then has to be released.
-/

namespace BufferedHttp

abbrev Action (World : Type) (α : Type) := EStateM Error World α

namespace Action

variable {World α : Type}

def ofExcept (r : Except Error α) : Action World α := fun w =>
  match r with
  | .ok a => .ok a w
  | .error e => .error e w

def ofCall (call : World → Except Error α × World) : Action World α := fun w =>
  match call w with
  | (.ok a, w) => .ok a w
  | (.error e, w) => .error e w

/-- Changes the world when the action fails; the error stands. -/
def onFailure (cleanup : World → World) (act : Action World α) : Action World α := fun w =>
  match act w with
  | .ok a w => .ok a w
  | .error e w => .error e (cleanup w)

/-- Changes the world at the end of the action, however it ends. -/
def ensuring (cleanup : World → World) (act : Action World α) : Action World α := fun w =>
  match act w with
  | .ok a w => .ok a (cleanup w)
  | .error e w => .error e (cleanup w)

theorem ofExcept_ok (a : α) (w : World) : ofExcept (.ok a) w = .ok a w := rfl

theorem ofExcept_error (e : Error) (w : World) :
    ofExcept (.error e : Except Error α) w = .error e w := rfl

end Action

end BufferedHttp
