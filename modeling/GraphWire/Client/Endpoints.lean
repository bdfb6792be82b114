import GraphWire.Text.Blank

/-! # Endpoints

The URLs of the transaction API under a base URL. The base is trimmed of blanks and loses every
trailing `/`; transactions begin at `base/transaction`, and a single round trip that commits at
once goes to `base/transaction/commit`. -/

namespace GraphWire

/-- The base URL of the API, normalized. -/
structure Endpoints where
  base : String
deriving DecidableEq, Repr

namespace Endpoints

/-- The endpoints under a base URL as given. -/
def ofBase (raw : String) : Endpoints := ⟨Text.dropTrailing '/' (Text.trim raw)⟩

/-- Where a transaction begins. -/
def transaction (e : Endpoints) : String := e.base ++ "/transaction"

/-- Where a single round trip commits at once. -/
def autocommit (e : Endpoints) : String := e.transaction ++ "/commit"

end Endpoints

end GraphWire
