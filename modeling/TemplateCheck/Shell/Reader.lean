import TemplateCheck.Shell.Token

/-!
Reading commands from the tokens of a script.
-/
namespace TemplateCheck.Shell

abbrev Reading (α : Type) := Option (α × List Token)

def Piece.plain? : Piece → Option Text
  | .literal text false => some text
  | _ => none

def plainText? (w : Word) : Option Text := (w.mapM Piece.plain?).map List.flatten

def Token.keyword? : Token → Option String
  | .word w => (plainText? w).map String.ofList
  | _ => none

def isKeyword (k : String) (ts : List Token) : Bool :=
  match ts with
  | t :: _ => t.keyword? == some k
  | [] => false

def expect (k : String) (ts : List Token) : Option (List Token) :=
  if isKeyword k ts then some (ts.drop 1) else none

def skipNewlines (ts : List Token) : List Token := ts.dropWhile (· == .operator .newline)

def skipSeparators (ts : List Token) : List Token :=
  ts.dropWhile fun t => t == .operator .newline || t == .operator .semicolon

def assignment? (w : Word) : Option (Text × Word) :=
  let letters := w.takeWhile fun piece => match piece with
    | .literal [c] false => isNameRest c
    | _ => false
  match w.drop letters.length with
  | .literal ['='] false :: value =>
    match (plainText? letters).getD [] with
    | c :: rest => if isNameStart c then some (c :: rest, value) else none
    | [] => none
  | _ => none

def readRedirection : List Token → Reading Redirect
  | .input :: .word w :: rest => some (.input w, rest)
  | .output stream :: .word w :: rest => some (.output stream w, rest)
  | .copy stream target :: rest => some (.copy stream target, rest)
  | _ => none

def readRedirections : Nat → List Token → List Redirect × List Token
  | 0, ts => ([], ts)
  | n + 1, ts =>
    match readRedirection ts with
    | some (r, rest) =>
      let (more, behind) := readRedirections n rest
      (r :: more, behind)
    | none => ([], ts)

structure SimpleParts where
  assignments : List (Text × Word) := []
  words : List Word := []
  redirects : List Redirect := []

def readSimple : Nat → SimpleParts → List Token → SimpleParts × List Token
  | 0, parts, ts => (parts, ts)
  | n + 1, parts, ts =>
    match readRedirection ts, ts with
    | some (r, rest), _ => readSimple n { parts with redirects := parts.redirects ++ [r] } rest
    | none, .word w :: rest =>
      match (if parts.words.isEmpty then assignment? w else none) with
      | some a => readSimple n { parts with assignments := parts.assignments ++ [a] } rest
      | none => readSimple n { parts with words := parts.words ++ [w] } rest
    | none, _ => (parts, ts)

def readPatterns : List Token → Reading (List Word)
  | .word w :: .operator .pipe :: rest => (readPatterns rest).map fun (ws, rest) => (w :: ws, rest)
  | .word w :: .operator .closeParen :: rest => some ([w], rest)
  | _ => none

def readItems : List Token → List Word × List Token
  | .word w :: rest =>
    let (ws, behind) := readItems rest
    (w :: ws, behind)
  | ts => ([], ts)

def openers : List String := ["while", "until", "if", "for", "case", "\x7b"]

def closers : List String := ["do", "done", "then", "elif", "else", "fi", "esac", "\x7d"]

def atEnd (ts : List Token) : Bool :=
  match ts with
  | [] => true
  | .operator .doubleSemicolon :: _ => true
  | .operator .closeParen :: _ => true
  | t :: _ => match t.keyword? with
    | some k => closers.elem k
    | none => false

mutual

def readList : Nat → List Token → Reading Command
  | 0, _ => none
  | n + 1, ts =>
    let ts := skipSeparators ts
    if atEnd ts then some (.nothing, ts)
    else
      match readAndOr n ts with
      | none => none
      | some (first, rest) =>
        if atEnd (skipSeparators rest) then some (first, skipSeparators rest)
        else match rest with
          | .operator .newline :: rest => continueList n first rest
          | .operator .semicolon :: rest => continueList n first rest
          | _ => none

def continueList : Nat → Command → List Token → Reading Command
  | 0, _, _ => none
  | n + 1, first, ts => (readList n ts).map fun (second, rest) => (.sequence first second, rest)

def readAndOr : Nat → List Token → Reading Command
  | 0, _ => none
  | n + 1, ts =>
    match readCommand n ts with
    | none => none
    | some (first, rest) => continueAndOr n first rest

def continueAndOr : Nat → Command → List Token → Reading Command
  | 0, _, _ => none
  | n + 1, first, ts =>
    match ts with
    | .operator .and :: rest =>
      match readCommand n (skipNewlines rest) with
      | none => none
      | some (second, rest) => continueAndOr n (.and first second) rest
    | .operator .or :: rest =>
      match readCommand n (skipNewlines rest) with
      | none => none
      | some (second, rest) => continueAndOr n (.or first second) rest
    | ts => some (first, ts)

def readUntil : Nat → String → List Token → Reading Command
  | 0, _, _ => none
  | n + 1, k, ts =>
    match readList n ts with
    | none => none
    | some (c, rest) => (expect k rest).map fun rest => (c, rest)

def readBranches : Nat → List Token → Reading (List (List Word × Command))
  | 0, _ => none
  | n + 1, ts =>
    let ts := skipNewlines ts
    if isKeyword "esac" ts then some ([], ts.drop 1)
    else
      let ts := match ts with
        | .operator .openParen :: rest => rest
        | ts => ts
      match readPatterns ts with
      | none => none
      | some (patterns, rest) =>
        match readList n rest with
        | none => none
        | some (body, rest) =>
          let rest := match rest with
            | .operator .doubleSemicolon :: rest => rest
            | rest => rest
          (readBranches n rest).map fun (more, rest) => ((patterns, body) :: more, rest)

def readChoice : Nat → Command → List Token → Reading Command
  | 0, _, _ => none
  | n + 1, test, ts =>
    match readList n ts with
    | none => none
    | some (yes, rest) =>
      if isKeyword "fi" rest then some (.choose test yes .nothing, rest.drop 1)
      else if isKeyword "else" rest then
        (readUntil n "fi" (rest.drop 1)).map fun (no, rest) => (.choose test yes no, rest)
      else if isKeyword "elif" rest then
        match readUntil n "then" (rest.drop 1) with
        | none => none
        | some (test', rest) =>
          (readChoice n test' rest).map fun (no, rest) => (.choose test yes no, rest)
      else none

def readCompound : Nat → String → List Token → Reading Command
  | 0, _, _ => none
  | n + 1, k, ts =>
    match k with
    | "while" => readLoop n true ts
    | "until" => readLoop n false ts
    | "if" =>
      match readUntil n "then" ts with
      | none => none
      | some (test, rest) => readChoice n test rest
    | "for" =>
      match ts with
      | .word w :: rest =>
        match plainText? w, expect "in" (skipNewlines rest) with
        | some name, some rest =>
          let (items, rest) := readItems rest
          match expect "do" (skipSeparators rest) with
          | none => none
          | some rest =>
            (readUntil n "done" rest).map fun (body, rest) => (.forEach name items body, rest)
        | _, _ => none
      | _ => none
    | "case" =>
      match ts with
      | .word subject :: rest =>
        match expect "in" (skipNewlines rest) with
        | none => none
        | some rest => (readBranches n rest).map fun (bs, rest) => (.case subject bs, rest)
      | _ => none
    | "\x7b" => readUntil n "\x7d" ts
    | _ => none

def readLoop : Nat → Bool → List Token → Reading Command
  | 0, _, _ => none
  | n + 1, whileTrue, ts =>
    match readUntil n "do" ts with
    | none => none
    | some (test, rest) =>
      (readUntil n "done" rest).map fun (body, rest) => (.loop whileTrue test body, rest)

def readCommand : Nat → List Token → Reading Command
  | 0, _ => none
  | n + 1, ts =>
    let compound : Option (Reading Command) := match ts with
      | .operator .openParen :: rest => some (readParenthesized n rest)
      | t :: rest => match t.keyword? with
        | some "!" => some ((readCommand n rest).map fun (c, rest) => (.not c, rest))
        | some k => if openers.elem k then some (readCompound n k rest) else none
        | none => none
      | [] => none
    match compound with
    | some (some (c, rest)) =>
      match readRedirections rest.length rest with
      | ([], rest) => some (c, rest)
      | (redirects, rest) => some (.redirected c redirects, rest)
    | some none => none
    | none =>
      let (parts, rest) := readSimple ts.length {} ts
      if rest.length < ts.length && !atEnd ts then
        some (.simple parts.assignments parts.words parts.redirects, rest)
      else none

def readParenthesized : Nat → List Token → Reading Command
  | 0, _ => none
  | n + 1, ts =>
    match readList n ts with
    | some (c, .operator .closeParen :: rest) => some (c, rest)
    | _ => none

end

def read? (script : Text) : Option Command :=
  (tokens (script.length + 1) script).bind fun ts =>
    match readList (8 * ts.length + 8) ts with
    | some (c, []) => some c
    | _ => none

end TemplateCheck.Shell
