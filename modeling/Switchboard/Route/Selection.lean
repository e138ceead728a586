import Switchboard.Route.Candidate

/-!
Choosing one candidate. Rules apply in turn until one candidate is left: most literal segments, most
specific type consumed, best type produced. Neither the order of registration nor a version
constraint breaks a tie.
-/

namespace Switchboard.Route

open Http

/-- Why a request has no route. -/
inductive Failure where
  | notFound (path : String)
  | notAccepted (path : String) (wanted : Version.Wanted)
  | methodNotAllowed (method : Method) (path : String) (allowed : List Method)
  | ambiguous (path : String) (candidates : List String)
deriving Repr, DecidableEq

namespace Failure

def message : Failure → String
  | .notFound path => "Route not found: " ++ path
  | .notAccepted path wanted =>
    "Route not found: " ++ path ++ " (version " ++ wanted.text ++ ")"
  | .methodNotAllowed method path allowed =>
    "Method not allowed: " ++ method.name ++ " " ++ path ++ " (allowed: " ++
      methodList allowed ++ ")"
  | .ambiguous path candidates =>
    "Ambiguous route for " ++ path ++ ": " ++ Text.join " | " candidates

/-- The status to answer with. -/
def status : Failure → Nat
  | .notFound _ => 404
  | .notAccepted _ _ => 404
  | .methodNotAllowed _ _ _ => 405
  | .ambiguous _ _ => 500

def isClientError (f : Failure) : Bool :=
  400 ≤ f.status && f.status < 500

/-- The value of the `Allow` header. -/
def allow? : Failure → Option String
  | .methodNotAllowed _ _ allowed => some (methodList allowed)
  | _ => none

end Failure

/-- A score in two parts, the first of which counts more. -/
abbrev Score := Nat × Nat

def Score.le (a b : Score) : Bool :=
  a.1 < b.1 || (a.1 = b.1 && a.2 ≤ b.2)

def Score.max (a b : Score) : Score :=
  if Score.le a b then b else a

def bestScore (scores : List Score) : Score :=
  scores.foldl Score.max (0, 0)

/-- The items with the highest score, in their order. -/
def keepBest {α : Type} (score : α → Score) (items : List α) : List α :=
  let best := bestScore (items.map score)
  items.filter (score · = best)

/-- How specifically an entry consumes a type. Declaring nothing takes anything at the
lowest rank. -/
def consumesScore (e : Entry) (type : MediaType) : Nat :=
  if e.consumes.isEmpty then 1
  else (e.consumes.map (·.matchRank type)).foldl max 0

/-- Quality and specificity of the best type that an entry produces. Declaring nothing produces
anything, and specificity counts only where the quality is not zero. -/
def producesScore (e : Entry) (accept : Accept) : Score :=
  if e.produces.isEmpty then (accept.quality MediaType.any, 1)
  else
    bestScore (e.produces.map fun m =>
      let quality := accept.quality m
      (quality, if 0 < quality then m.specificity else 0))

/-- The first rule: most literal segments. -/
def keepLiteral (pool : List Candidate) : List Candidate :=
  keepBest (fun c => (c.entry.specificity, 0)) pool

/-- The second rule: the type consumed, if the request has a readable content type. -/
def keepConsuming (request : Request) (pool : List Candidate) : List Candidate :=
  if pool.length ≤ 1 then pool
  else
    match request.contentType? with
    | some type => keepBest (fun c => (consumesScore c.entry type, 0)) pool
    | none => pool

/-- The third rule: the types produced. -/
def keepProducing (request : Request) (pool : List Candidate) : List Candidate :=
  if pool.length ≤ 1 then pool
  else keepBest (fun c => producesScore c.entry request.accept) pool

/-- The candidates left after all rules. The later ones are skipped once a single candidate is
left. -/
def narrow (request : Request) (pool : List Candidate) : List Candidate :=
  keepProducing request (keepConsuming request (keepLiteral pool))

def select (request : Request) (pool : List Candidate) : Except Failure Candidate :=
  match narrow request pool with
  | [] => .error (.notFound request.path)
  | [c] => .ok c
  | rest => .error (.ambiguous request.path (rest.map (·.entry.text)))

end Switchboard.Route
