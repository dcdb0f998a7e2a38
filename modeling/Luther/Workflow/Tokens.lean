/-
Variables of a config put into the path of an artifact, and the four places that look for a token
left over in a text.

The variables are put in pass by pass, each of them once in a pass, until a pass changes nothing
or as many passes have been made as there are variables; only in the second case does anyone look
whether a token is left.

Each place that looks for tokens reads the text from the left and pairs an opening brace with the next closing one.  They
differ in what they take for a token, in where they go on behind braces that hold none, and in
what an opening brace means to them that nothing closes.
-/
import Luther.Lib.Braces
import Luther.Lib.Text
import Mathlib.Data.Finset.Insert

namespace Luther.Tokens

/-! ### Scanning for a brace -/

theorem length_behind {c : Char} {text before after : List Char}
    (h : Search.splitFirst [c] text = some (before, after)) : after.length < text.length := by
  rw [(Search.splitFirst_singleton h).2, List.length_append, List.length_cons]
  omega

/-! ### Artifact paths -/

def isConfigTokenByte (c : Char) : Bool := c.isAlphanum || c == '_' || c == '.'

def isConfigTokenName (token : List Char) : Bool := !token.isEmpty && token.all isConfigTokenByte

def hasUnresolvedConfigToken : List Char → Bool
  | [] => false
  | c :: rest =>
    if c ≠ '{' then hasUnresolvedConfigToken rest
    else
      match _h : Search.splitFirst ['}'] rest with
      -- A brace that nothing closes is literal text.
      | none => hasUnresolvedConfigToken rest
      | some (token, after) =>
        if isConfigTokenName token then true else hasUnresolvedConfigToken after
termination_by text => text.length
decreasing_by
  all_goals simp only [List.length_cons]
  all_goals first | omega | (have hlt := length_behind _h; omega)

/-- The variables of a config, each name once. -/
structure VariableMap where
  entries : List (String × String)
  distinct : (entries.map Prod.fst).Nodup

def reference (key : String) : String := String.ofList (Braces.braced key.toList)

def interpolationPass (order : List (String × String)) (value : String) : String :=
  order.foldl (fun value entry => replaceText (reference entry.1) entry.2 value) value

/-- At most so many passes: what they make of the value, and whether the last one left it as it
was. -/
def interpolationPasses (order : List (String × String)) : Nat → String → String × Bool
  | 0, value => (value, false)
  | passes + 1, previous =>
    let value := interpolationPass order previous
    if value = previous then (value, true) else interpolationPasses order passes value

def unresolvedInPath (value : String) : String :=
  s!"unresolved variable interpolation in artifact path: {value}"

/-- `interpolate_config_variables`, with the variables in the order that the map is iterated
in. -/
def interpolateConfigVariables (raw : String) (order : List (String × String)) :
    Except String String :=
  match interpolationPasses order (max order.length 1) raw with
  | (value, true) => .ok value
  | (value, false) =>
    if hasUnresolvedConfigToken value.toList then .error (unresolvedInPath value) else .ok value

/-! ### Profile values -/

def validTokenHead (c : Char) : Bool := c == '_' || c.isAlpha

def validTokenTailByte (c : Char) : Bool := c.isAlphanum || c == '_'

def unresolvedVariableToken (token : String) : Option String :=
  match token.toList with
  | [] => none
  | head :: tail => if validTokenHead head && tail.all validTokenTailByte then some token else none

def unresolvedTokens (text : List Char) : Finset String :=
  match _hstart : Search.splitFirst ['{'] text with
  | none => ∅
  | some (_, afterStart) =>
    match _hend : Search.splitFirst ['}'] afterStart with
    | none => ∅
    | some (token, remaining) =>
      match unresolvedVariableToken (trim (String.ofList token)) with
      | some token => insert token (unresolvedTokens remaining)
      | none => unresolvedTokens remaining
termination_by text.length
decreasing_by
  all_goals exact Nat.lt_trans (length_behind _hend) (length_behind _hstart)

/-! ### Arguments of a command -/

def unresolvedTemplateToken (text : List Char) : Option (List Char) :=
  match _hstart : Search.splitFirst ['{'] text with
  | none => none
  | some (_, after) =>
    match Search.splitFirst ['}'] after with
    | none => none
    | some (candidate, _) =>
      if isConfigTokenName candidate then some candidate
      -- The scan goes on just behind the opening brace, not behind the closing one.
      else unresolvedTemplateToken after
termination_by text.length
decreasing_by
  exact length_behind _hstart

/-! ### Values of the feedback artifacts -/

def hasUnresolvedToken : List Char → Bool
  | [] => false
  | c :: rest =>
    if c = '{' then
      match _h : Search.splitFirst ['}'] rest with
      | none => true
      | some (token, after) => if isConfigTokenName token then true else hasUnresolvedToken after
    else hasUnresolvedToken rest
termination_by text => text.length
decreasing_by
  all_goals simp only [List.length_cons]
  all_goals first | omega | (have hlt := length_behind _h; omega)

/-! ### The four of them -/

/-- The places that look for a token. -/
inductive Scanner where
  | configTokens
  | targetProfile
  | commandManifest
  | markerParse

def Scanner.reports : Scanner → String → Bool
  | .configTokens, text => hasUnresolvedConfigToken text.toList
  | .targetProfile, text => decide (unresolvedTokens text.toList).Nonempty
  | .commandManifest, text => (unresolvedTemplateToken text.toList).isSome
  | .markerParse, text => hasUnresolvedToken text.toList

end Luther.Tokens
