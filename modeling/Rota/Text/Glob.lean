namespace Rota.Text.Glob

inductive Member
  | one (c : Char)
  | range (low high : Char)
  deriving DecidableEq, Repr

inductive Token
  | literal (c : Char)
  | anyOne
  | anyMany
  /-- Any number of whole folders. -/
  | folders
  | within (members : List Member)
  | except (members : List Member)
  deriving DecidableEq, Repr

inductive Cause
  | stars
  | folders
  | brackets
  deriving DecidableEq, Repr

/-- Why a text is no pattern, and about where. -/
structure Fault where
  position : Nat
  cause : Cause
  deriving DecidableEq, Repr

def Cause.message : Cause → String
  | .stars => "wildcards are either regular `*` or recursive `**`"
  | .folders => "recursive wildcards must form a single path component"
  | .brackets => "invalid range pattern"

def Fault.message (f : Fault) : String :=
  s!"Pattern syntax error near position {f.position}: {f.cause.message}"

/-- What stands before the first `stop` and what after it, if there is one. -/
def splitAt? (stop : Char) : List Char → Option (List Char × List Char)
  | [] => none
  | c :: cs =>
    if c = stop then some ([], cs)
    else (splitAt? stop cs).map fun (before, after) => (c :: before, after)

theorem length_of_splitAt? {stop : Char} {cs before after : List Char}
    (h : splitAt? stop cs = some (before, after)) : after.length < cs.length := by
  induction cs generalizing before after with
  | nil => simp [splitAt?] at h
  | cons c cs ih =>
    unfold splitAt? at h
    split at h
    · simp at h; simp [h.2]
    · simp only [Option.map_eq_some_iff, Prod.mk.injEq, Prod.exists] at h
      obtain ⟨b, a, h, -, rfl⟩ := h
      have := ih h
      simp; omega

def members : List Char → List Member
  | low :: '-' :: high :: rest => .range low high :: members rest
  | c :: rest => .one c :: members rest
  | [] => []

/-- Reads the tokens of `cs`, whose first character is numbered `position`; `opening` says whether
a name starts there. -/
def tokens (position : Nat) (opening : Bool) : List Char → Except Fault (List Token)
  | [] => .ok []
  | '?' :: cs => (.anyOne :: ·) <$> tokens (position + 1) false cs
  | '*' :: '*' :: '*' :: _ => .error ⟨position + 2, .stars⟩
  | '*' :: '*' :: cs =>
    if opening then
      match cs with
      | [] => .ok [.folders]
      | '/' :: cs => (.folders :: ·) <$> tokens (position + 3) true cs
      | _ => .error ⟨position + 2, .folders⟩
    else .error ⟨position - 1, .folders⟩
  | '*' :: cs => (.anyMany :: ·) <$> tokens (position + 1) false cs
  | '[' :: '!' :: c :: cs =>
    match _ : splitAt? ']' cs with
    | some (inner, rest) =>
      (.except (members (c :: inner)) :: ·) <$> tokens (position + inner.length + 4) false rest
    | none => .error ⟨position, .brackets⟩
  | '[' :: c :: cs =>
    if c = '!' then .error ⟨position, .brackets⟩
    else
      match _ : splitAt? ']' cs with
      | some (inner, rest) =>
        (.within (members (c :: inner)) :: ·) <$> tokens (position + inner.length + 3) false rest
      | none => .error ⟨position, .brackets⟩
  | '[' :: _ => .error ⟨position, .brackets⟩
  | c :: cs => (.literal c :: ·) <$> tokens (position + 1) (c = '/') cs
termination_by cs => cs.length
decreasing_by
  all_goals simp_wf
  all_goals try omega
  all_goals
    rename_i h
    have := length_of_splitAt? h
    omega

def Member.admits (c : Char) : Member → Bool
  | .one d => c = d
  | .range low high => low ≤ c && c ≤ high

def accepts : List Token → List Char → Bool
  | [], [] => true
  | [], _ :: _ => false
  | .anyMany :: ts, [] => accepts ts []
  | .anyMany :: ts, c :: cs => accepts ts (c :: cs) || accepts (.anyMany :: ts) cs
  | .literal d :: ts, c :: cs => c = d && accepts ts cs
  | .anyOne :: ts, _ :: cs => accepts ts cs
  | .within ms :: ts, c :: cs => ms.any (·.admits c) && accepts ts cs
  | .except ms :: ts, c :: cs => !ms.any (·.admits c) && accepts ts cs
  | _ :: _, _ => false
termination_by ts cs => (ts.length, cs.length)

/-- The text that tokens spell, if none of them is a wildcard. -/
def spelled? : List Token → Option (List Char)
  | [] => some []
  | .literal c :: ts => (spelled? ts).map (c :: ·)
  | _ :: _ => none

structure Part where
  /-- Whether any number of folders may lead to what the component stands for. -/
  deep : Bool
  tokens : List Token
  deriving DecidableEq, Repr

structure Pattern where
  parts : List Part
  foldersOnly : Bool
  deriving DecidableEq, Repr

/-- Joins the components that stand for any number of folders with the one behind them. A last one
stands for all folders below, as `**/*/` does. -/
def Pattern.ofComponents (deep foldersOnly : Bool) : List (List Token) → Pattern
  | [] => if deep then ⟨[⟨true, [.anyMany]⟩], true⟩ else ⟨[], foldersOnly⟩
  | ts :: rest =>
    if ts = [.folders] then ofComponents true foldersOnly rest
    else
      let behind := ofComponents false foldersOnly rest
      { behind with parts := ⟨deep, ts⟩ :: behind.parts }

/-- What stands between the slashes of a path; one slash may end it. -/
def components (cs : List Char) : List (List Char) :=
  let parts := cs.splitOn '/'
  if parts.getLast? = some [] then parts.dropLast else parts

/-- The pattern `text`, which stands behind a slash; its first character is numbered `base`. It has
to be a pattern as a whole and in each of its components. -/
def parse (base : Nat) (text : String) : Except Fault Pattern := do
  let cs := text.toList
  let _ ← tokens base true cs
  let parts ← (components cs).mapM (tokens 0 true)
  return .ofComponents false (cs.getLast?.all (· = '/')) parts

end Rota.Text.Glob
