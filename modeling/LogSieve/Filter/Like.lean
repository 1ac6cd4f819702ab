/-!
# LIKE patterns

A pattern is a sequence of tokens: `%` stands for any run of characters, `_` for exactly one, a
backslash takes the special meaning from the character behind it, and all other characters stand
for themselves. A pattern fits a text as a whole.
-/

namespace LogSieve

/-- A token of a LIKE pattern. -/
inductive LikeToken where
  /-- Any run of characters, also an empty one. -/
  | anyRun
  /-- Any single character. -/
  | anyOne
  /-- One given character. -/
  | literal (c : Char)
deriving DecidableEq

namespace LikeToken

/-! ### Reading a pattern -/

/-- The tokens of a pattern. A backslash at the end stands for itself. -/
def ofPattern : List Char → List LikeToken
  | [] => []
  | ['\\'] => [literal '\\']
  | '\\' :: c :: rest => literal c :: ofPattern rest
  | c :: rest =>
    (if c = '%' then anyRun else if c = '_' then anyOne else literal c) :: ofPattern rest

/-- The token with its literal character replaced by `f` of it. -/
def mapLiteral (f : Char → Char) : LikeToken → LikeToken
  | literal c => literal (f c)
  | token => token

/-! ### Fitting a text

`fitting tokens text` tells for each end of the text, from the whole text down to the empty one,
whether the tokens fit it. -/

/-- For each place: does the list hold `true` there or further on? -/
def laterTrue : List Bool → List Bool
  | [] => []
  | b :: rest =>
    let later := laterTrue rest
    (b || later.headD false) :: later

/-- Which ends of the text a token with tokens behind it fits, when `after` tells it for the tokens
behind it alone. -/
def fitBefore (token : LikeToken) (text : List Char) (after : List Bool) : List Bool :=
  match token with
  | anyRun => laterTrue after
  | anyOne => after.drop 1 ++ [false]
  | literal c => List.zipWith (fun d ok => d == c && ok) text (after.drop 1) ++ [false]

/-- Which ends of the text the tokens fit. -/
def fitting (tokens : List LikeToken) (text : List Char) : List Bool :=
  tokens.foldr (fitBefore · text) (text.map (fun _ => false) ++ [true])

/-- Do the tokens fit the text as a whole? -/
def fits (tokens : List LikeToken) (text : List Char) : Bool := (fitting tokens text).headD false

/-! ### As a regular expression -/

/-- Characters that mean something else in a regular expression unless escaped. -/
def metacharacters : List Char :=
  ['\\', '.', '+', '*', '?', '(', ')', '|', '[', ']', '{', '}', '^', '$', '#', '&', '-', '~']

/-- The regular expression of a token. -/
def regexChars : LikeToken → List Char
  | anyRun => ['.', '*']
  | anyOne => ['.']
  | literal c => if metacharacters.contains c then ['\\', c] else [c]

/-- The regular expression of a sequence of tokens, which fits whole texts. -/
def regex (tokens : List LikeToken) : String :=
  String.ofList ('^' :: (tokens.flatMap regexChars ++ ['$']))

/-- The modes in which the regular expression is meant: `s` lets a point stand for a line feed, and
`i` disregards case. -/
def modes (ignoreCase : Bool) : String := if ignoreCase then "(?is)" else "(?s)"

/-- The regular expression with its modes in front. -/
def expression (ignoreCase : Bool) (tokens : List LikeToken) : String :=
  modes ignoreCase ++ regex tokens

end LikeToken

end LogSieve
