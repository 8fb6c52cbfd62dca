/-!
The verbs under which a path declares operations.
-/

namespace ApiTypes

inductive Method where
  | get
  | post
  | put
  | patch
  | delete
  | head
  | options
  | trace
deriving DecidableEq, Repr, Inhabited

namespace Method

/-- Every verb, in the order in which operations are read. -/
def all : List Method := [.get, .post, .put, .patch, .delete, .head, .options, .trace]

def name : Method → String
  | .get => "get"
  | .post => "post"
  | .put => "put"
  | .patch => "patch"
  | .delete => "delete"
  | .head => "head"
  | .options => "options"
  | .trace => "trace"

def upperName : Method → String
  | .get => "GET"
  | .post => "POST"
  | .put => "PUT"
  | .patch => "PATCH"
  | .delete => "DELETE"
  | .head => "HEAD"
  | .options => "OPTIONS"
  | .trace => "TRACE"

def ofName? (name : String) : Option Method := all.find? fun m => m.name = name

theorem mem_all (m : Method) : m ∈ all := by cases m <;> decide

end Method

/-- One optional operation for each verb. -/
structure Operations (ω : Type) where
  get : Option ω := none
  post : Option ω := none
  put : Option ω := none
  patch : Option ω := none
  delete : Option ω := none
  head : Option ω := none
  options : Option ω := none
  trace : Option ω := none
deriving DecidableEq, Repr, Inhabited

namespace Operations

variable {ω : Type}

def at? (ops : Operations ω) : Method → Option ω
  | .get => ops.get
  | .post => ops.post
  | .put => ops.put
  | .patch => ops.patch
  | .delete => ops.delete
  | .head => ops.head
  | .options => ops.options
  | .trace => ops.trace

def set (ops : Operations ω) (m : Method) (op : Option ω) : Operations ω :=
  match m with
  | .get => { ops with get := op }
  | .post => { ops with post := op }
  | .put => { ops with put := op }
  | .patch => { ops with patch := op }
  | .delete => { ops with delete := op }
  | .head => { ops with head := op }
  | .options => { ops with options := op }
  | .trace => { ops with trace := op }

/-- The declared operations, in the order of the verbs. -/
def list (ops : Operations ω) : List (Method × ω) :=
  Method.all.filterMap fun m => (ops.at? m).map (m, ·)

end Operations

end ApiTypes
