import RecordQuery.Pattern.Node
/-!
Reading the text of a pattern.

The text is first cut into tokens, a character or an escaped character each, and the tokens are read
into a tree. Reading fails on a pattern that has no meaning: an unclosed group or set, a repetition of
nothing, an unknown escape, a reference to a group that is not closed yet, a look-behind whose width is
not fixed.
-/

namespace RecordQuery.Pattern

/-- A character of a pattern, or a backslash with the character after it. -/
inductive Token
  | plain (c : Char)
  | escaped (c : Char)
  deriving DecidableEq

/-- Cuts a text into tokens; a backslash at the very end has nothing to escape. -/
def tokens? : List Char → Option (List Token)
  | [] => some []
  | '\\' :: c :: rest => (tokens? rest).map (.escaped c :: ·)
  | ['\\'] => none
  | c :: rest => (tokens? rest).map (.plain c :: ·)

/-- The least and the greatest count of characters a pattern can consume; no greatest one is `none`. -/
structure Width where
  least : Nat
  greatest : Option Nat
  deriving DecidableEq

namespace Width

def add (a b : Width) : Width :=
  ⟨a.least + b.least, a.greatest.bind fun m => b.greatest.map (m + ·)⟩

def join (a b : Width) : Width :=
  ⟨min a.least b.least, a.greatest.bind fun m => b.greatest.map (max m ·)⟩

def times (a : Width) (least : Nat) (greatest : Option Nat) : Width :=
  ⟨a.least * least,
    if a.greatest = some 0 ∨ greatest = some 0 then some 0
    else a.greatest.bind fun m => greatest.map (m * ·)⟩

def one : Width := ⟨1, some 1⟩

def zero : Width := ⟨0, some 0⟩

end Width

/-- The width of a pattern, given the widths of the groups closed so far. -/
def widthOf (closed : List (Nat × Width)) : Node → Width
  | .empty | .place _ | .ahead .. | .behind .. => .zero
  | .char _ | .any | .set .. => .one
  | .seq a b => (widthOf closed a).add (widthOf closed b)
  | .alt a b => (widthOf closed a).join (widthOf closed b)
  | .capture _ body | .scoped _ _ body | .atomic body => widthOf closed body
  | .repeated least greatest _ body => (widthOf closed body).times least greatest
  | .backref index => ((closed.find? (·.1 == index)).map (·.2)).getD .zero
  | .conditional _ yes no => (widthOf closed yes).join (widthOf closed no)

/-- Where a reader stands: the tokens ahead and what the pattern has declared so far. -/
structure Reading where
  ahead : List Token
  /-- How many groups have been opened. -/
  opened : Nat
  /-- The groups closed so far, with their widths. -/
  closed : List (Nat × Width)
  names : List (String × Nat)
  /-- Inside a look-behind: how many groups were open when it began. -/
  behind : Option Nat
  /-- The flags given for the whole pattern. -/
  flags : PatternFlags
  /-- Whether the pattern asks for the classes of all scripts by name. -/
  allScripts : Bool
  /-- Groups that a condition asks about, which may be opened later. -/
  conditions : List Nat

namespace Reading

def start (ahead : List Token) (flags : PatternFlags) : Reading :=
  { ahead, opened := 0, closed := [], names := [], behind := none, flags, allScripts := false,
    conditions := [] }

def accept? (r : Reading) (c : Char) : Option Reading :=
  match r.ahead with
  | .plain d :: rest => if c = d then some { r with ahead := rest } else none
  | _ => none

/-- Consumes up to `n` plain characters as long as they satisfy `p`. -/
def takeWhile (p : Char → Bool) : (n : Nat) → Reading → List Char × Reading
  | 0, r => ([], r)
  | n + 1, r =>
    match r.ahead with
    | .plain d :: rest =>
      if p d then
        let (ds, r') := takeWhile p n { r with ahead := rest }
        (d :: ds, r')
      else ([], r)
    | _ => ([], r)

/-- Whether a group can be referred to here: it is closed, and not part of the look-behind at hand. -/
def canRefer (r : Reading) (index : Nat) : Bool :=
  r.closed.any (·.1 == index) && r.behind.all (index ≤ ·)

end Reading

/-- The value of a character as a digit up to `f`. -/
def hexValue? (c : Char) : Option Nat :=
  if c.isDigit then some (c.toNat - 0x30)
  else if 'a' ≤ c ∧ c ≤ 'f' then some (c.toNat - 0x57)
  else if 'A' ≤ c ∧ c ≤ 'F' then some (c.toNat - 0x37)
  else none

def numberOf (base : Nat) (ds : List Char) : Nat :=
  ds.foldl (fun n d => base * n + (hexValue? d).getD 0) 0

/-- Whether `c` is an octal digit. -/
def isOctal (c : Char) : Bool := decide ('0' ≤ c ∧ c ≤ '7')

/-- What an escape or a plain character stands for inside a set. -/
inductive SetAtom
  | code (n : Nat)
  | named (cls : CharClass) (negated : Bool)

/-- The entry of a single code point; one that is no character is never met. -/
def SetItem.ofCode (n : Nat) : SetItem :=
  if n.isValidChar then .char (Char.ofNat n) else .range n n

def SetAtom.item : SetAtom → SetItem
  | .code n => SetItem.ofCode n
  | .named cls negated => .named cls negated

def nodeOfCode (n : Nat) : Node :=
  if n.isValidChar then .char (Char.ofNat n) else .set false [.range n n]

def classOf? : Char → Option (CharClass × Bool)
  | 'd' => some (.digit, false)
  | 'D' => some (.digit, true)
  | 's' => some (.blank, false)
  | 'S' => some (.blank, true)
  | 'w' => some (.word, false)
  | 'W' => some (.word, true)
  | _ => none

def placeOf? : Char → Option Place
  | 'A' => some .textStart
  | 'Z' => some .textEnd
  | 'b' => some .wordEdge
  | 'B' => some .notWordEdge
  | _ => none

def controlOf? : Char → Option Nat
  | 'a' => some 0x7
  | 'f' => some 0xC
  | 'n' => some 0xA
  | 'r' => some 0xD
  | 't' => some 0x9
  | 'v' => some 0xB
  | _ => none

def hexLength? : Char → Option Nat
  | 'x' => some 2
  | 'u' => some 4
  | 'U' => some 8
  | _ => none

/-- A code point of exactly `n` hexadecimal digits. -/
def readHex? (n : Nat) (r : Reading) : Option (Nat × Reading) :=
  let (ds, r) := r.takeWhile (fun c => (hexValue? c).isSome) n
  if ds.length = n ∧ numberOf 16 ds < 0x110000 then some (numberOf 16 ds, r) else none

/-- The escapes for a character by name or number that mean the same inside and outside sets. -/
def readCharEscape? (c : Char) (r : Reading) : Option (Nat × Reading) :=
  match controlOf? c with
  | some n => some (n, r)
  | none =>
    match hexLength? c with
    | some n => readHex? n r
    | none => if c.isAlphanum then none else some (c.toNat, r)

def readSetEscape? (c : Char) (r : Reading) : Option (SetAtom × Reading) :=
  match classOf? c with
  | some (cls, negated) => some (.named cls negated, r)
  | none =>
    if c = 'b' then some (.code 0x8, r)
    else if isOctal c then
      let (ds, r) := r.takeWhile isOctal 2
      let n := numberOf 8 (c :: ds)
      if n ≤ 0o377 then some (.code n, r) else none
    else (readCharEscape? c r).map fun (n, r) => (.code n, r)

def referTo? (index : Nat) (r : Reading) : Option (Node × Reading) :=
  if r.canRefer index then some (.backref index, r) else none

/-- An escape that begins with a digit: an octal number or a reference to a group. -/
def readDigitEscape? (c : Char) (r : Reading) : Option (Node × Reading) :=
  if c = '0' then
    let (ds, r) := r.takeWhile isOctal 2
    some (nodeOfCode (numberOf 8 ds), r)
  else
    match r.takeWhile Char.isDigit 1 with
    | ([d], r') =>
      if isOctal c && isOctal d then
        match r'.takeWhile isOctal 1 with
        | ([e], r'') =>
          let n := numberOf 8 [c, d, e]
          if n ≤ 0o377 then some (nodeOfCode n, r'') else none
        | _ => referTo? (numberOf 10 [c, d]) r'
      else referTo? (numberOf 10 [c, d]) r'
    | _ => referTo? (numberOf 10 [c]) r

def readEscape? (c : Char) (r : Reading) : Option (Node × Reading) :=
  match placeOf? c, classOf? c with
  | some p, _ => some (.place p, r)
  | none, some (cls, negated) => some (.set false [.named cls negated], r)
  | none, none =>
    if c.isDigit then readDigitEscape? c r
    else (readCharEscape? c r).map fun (n, r) => (nodeOfCode n, r)

def readSetAtom? : Token → Reading → Option (SetAtom × Reading)
  | .plain c, r => some (.code c.toNat, r)
  | .escaped c, r => readSetEscape? c r

/-- The entries of a set up to the closing bracket, which is an entry itself when it comes first. -/
def readSetItems? : (fuel : Nat) → List SetItem → Reading → Option (List SetItem × Reading)
  | 0, _, _ => none
  | fuel + 1, items, r =>
    match r.ahead with
    | [] => none
    | token :: rest =>
      let r := { r with ahead := rest }
      if token = .plain ']' ∧ items ≠ [] then some (items.reverse, r)
      else
        (readSetAtom? token r).bind fun (low, r) =>
          match r.accept? '-' with
          | none => readSetItems? fuel (low.item :: items) r
          | some r =>
            match r.ahead with
            | [] => none
            | .plain ']' :: rest =>
              some ((.char '-' :: low.item :: items).reverse, { r with ahead := rest })
            | token :: rest =>
              (readSetAtom? token { r with ahead := rest }).bind fun (high, r) =>
                match low, high with
                | .code a, .code b =>
                  if a ≤ b then readSetItems? fuel (.range a b :: items) r else none
                | _, _ => none

def readSet? (r : Reading) : Option (Node × Reading) :=
  let (negated, r) := match r.accept? '^' with
    | some r => (true, r)
    | none => (false, r)
  (readSetItems? (r.ahead.length + 1) [] r).map fun (items, r) => (.set negated items, r)

/-- The bounds in braces, after the opening one; `none` when the brace is an ordinary character. -/
def readBounds? (r : Reading) : Option ((Nat × Option Nat) × Reading) :=
  let digits (r : Reading) := r.takeWhile Char.isDigit r.ahead.length
  let (low, r₁) := digits r
  match r₁.accept? ',' with
  | some r₂ =>
    let (high, r₃) := digits r₂
    (r₃.accept? '}').map fun r => ((numberOf 10 low, if high.isEmpty then none else
      some (numberOf 10 high)), r)
  | none =>
    if low.isEmpty then none
    else (r₁.accept? '}').map fun r => ((numberOf 10 low, some (numberOf 10 low)), r)

/-- The bounds of a repetition that begins with the given character, if it does begin one. -/
def readRepeat? (c : Char) (r : Reading) : Option ((Nat × Option Nat) × Reading) :=
  if c = '*' then some ((0, none), r)
  else if c = '+' then some ((1, none), r)
  else if c = '?' then some ((0, some 1), r)
  else if c = '{' then readBounds? r
  else none

def readGreed (r : Reading) : Greed × Reading :=
  match r.accept? '?' with
  | some r => (.lazy, r)
  | none =>
    match r.accept? '+' with
    | some r => (.possessive, r)
    | none => (.greedy, r)

/-- Whether a pattern can be repeated: places cannot, nor can a repetition that stands open. -/
def repeatable : Node → Bool
  | .place _ | .repeated .. => false
  | _ => true

def maxRepeat : Nat := 0xFFFFFFFF

def repeatLast? (least : Nat) (greatest : Option Nat) (greed : Greed) : List Node →
    Option (List Node)
  | [] => none
  | node :: done =>
    if repeatable node && greatest.all (least ≤ ·) && least < maxRepeat &&
        greatest.all (· < maxRepeat) then
      some (.repeated least greatest greed node :: done)
    else none

def flagOf? : Char → Option PatternFlags
  | 'i' => some { PatternFlags.none with ignoreCase := true }
  | 'm' => some { PatternFlags.none with multiline := true }
  | 's' => some { PatternFlags.none with dotAll := true }
  | 'x' => some { PatternFlags.none with verbose := true }
  | 'a' => some { PatternFlags.none with ascii := true }
  | 'u' => some PatternFlags.none
  | _ => none

/-- The switches that letters set; no letter is unknown. -/
def flagsOf? (letters : List Char) : Option PatternFlags :=
  letters.foldlM (fun f c => (flagOf? c).map f.union) PatternFlags.none

def isFlagLetter (c : Char) : Bool := (flagOf? c).isSome

/-- What a list of flag letters in parentheses asks for. -/
inductive FlagGroup
  /-- Switches for the whole pattern. -/
  | whole (on : PatternFlags) (allScripts : Bool)
  /-- Switches for the group that follows. -/
  | group (on off : PatternFlags)

/-- Flag letters after `(?`, up to a closing parenthesis or a colon. -/
def readFlags? (r : Reading) : Option (FlagGroup × Reading) :=
  let (letters, r) := r.takeWhile isFlagLetter r.ahead.length
  let typed := letters.contains 'a' && letters.contains 'u'
  (flagsOf? letters).bind fun on =>
    if typed then none
    else match r.accept? ')' with
    | some r => if letters.isEmpty then none else some (.whole on (letters.contains 'u'), r)
    | none =>
      match r.accept? ':' with
      | some r =>
        if letters.isEmpty then none
        else some (.group on (if letters.contains 'u' then (flagOf? 'a').getD on else .none), r)
      | none =>
        (r.accept? '-').bind fun r =>
          let (cleared, r) := r.takeWhile isFlagLetter r.ahead.length
          (flagsOf? cleared).bind fun off =>
            if cleared.isEmpty || cleared.contains 'a' || cleared.contains 'u' || on.overlaps off
            then none
            else (r.accept? ':').map fun r =>
              (.group on (if letters.contains 'u' then { off with ascii := true } else off), r)

/-- Characters up to the given one, which is consumed too. There has to be one at least. -/
def readUntil? (stop : Char) (r : Reading) : Option (String × Reading) :=
  let (cs, r) := r.takeWhile (· != stop) r.ahead.length
  if cs.isEmpty then none else (r.accept? stop).map fun r => (String.ofList cs, r)

def isGroupName (s : String) : Bool :=
  match s.toList with
  | [] => false
  | c :: cs => (c == '_' || (Text.isAlphanumeric c && !Text.isDecimalDigit c)) && cs.all Text.isWordChar

def skipComment? : List Token → Option (List Token)
  | [] => none
  | .plain ')' :: rest => some rest
  | _ :: rest => skipComment? rest

def skipLine : List Token → List Token
  | [] => []
  | .plain '\n' :: rest => rest
  | _ :: rest => skipLine rest

/-- How the tokens at hand are read. -/
structure Scope where
  verbose : Bool
  /-- Whether this is the very beginning, where flags for the whole pattern may stand. -/
  first : Bool
  nested : Bool

def Scope.inner (s : Scope) : Scope := { s with first := false, nested := true }

mutual

/-- The patterns of one alternative, latest first, up to a bar, a closing parenthesis or the end. -/
def readItems? : (fuel : Nat) → Scope → List Node → Reading → Option (List Node × Reading)
  | 0, _, _, _ => none
  | fuel + 1, scope, done, r =>
    match r.ahead with
    | [] => some (done, r)
    | .escaped c :: rest =>
      (readEscape? c { r with ahead := rest }).bind fun (node, r) =>
        readItems? fuel scope (node :: done) r
    | .plain c :: rest =>
      if c = '|' ∨ c = ')' then some (done, r)
      else
        let r := { r with ahead := rest }
        if scope.verbose && Text.isAsciiBlank c then readItems? fuel scope done r
        else if scope.verbose && c == '#' then
          readItems? fuel scope done { r with ahead := skipLine rest }
        else if c = '[' then
          (readSet? r).bind fun (node, r) => readItems? fuel scope (node :: done) r
        else if c = '(' then
          (readGroup? fuel scope done r).bind fun (done, scope, r) => readItems? fuel scope done r
        else if c = '.' then readItems? fuel scope (.any :: done) r
        else if c = '^' then readItems? fuel scope (.place .lineStart :: done) r
        else if c = '$' then readItems? fuel scope (.place .lineEnd :: done) r
        else if c = '*' ∨ c = '+' ∨ c = '?' ∨ c = '{' then
          match readRepeat? c r with
          | none => readItems? fuel scope (.char c :: done) r
          | some ((least, greatest), r) =>
            let (greed, r) := readGreed r
            (repeatLast? least greatest greed done).bind fun done => readItems? fuel scope done r
        else readItems? fuel scope (.char c :: done) r

def readBranches? : (fuel : Nat) → Scope → List Node → Reading → Option (Node × Reading)
  | 0, _, _, _ => none
  | fuel + 1, scope, branches, r =>
    (readItems? fuel scope [] r).bind fun (items, r) =>
      let branches := .sequence items.reverse :: branches
      match r.accept? '|' with
      | none => some (.alternatives branches.reverse, r)
      | some r =>
        let verbose := if scope.nested then scope.verbose else r.flags.verbose
        readBranches? fuel { scope with verbose, first := false } branches r

def readBody? : (fuel : Nat) → Scope → Reading → Option (Node × Reading)
  | 0, _, _ => none
  | fuel + 1, scope, r =>
    (readBranches? fuel scope.inner [] r).bind fun (body, r) =>
      (r.accept? ')').map fun r => (body, r)

def readCapture? : (fuel : Nat) → Scope → Option String → Reading → Option (Node × Reading)
  | 0, _, _, _ => none
  | fuel + 1, scope, name, r =>
    let index := r.opened + 1
    if name.any fun n => r.names.any (·.1 == n) then none
    else
      let names := match name with
        | some n => (n, index) :: r.names
        | none => r.names
      (readBody? fuel scope { r with opened := index, names }).map fun (body, r) =>
        (.capture index body, { r with closed := (index, widthOf r.closed body) :: r.closed })

def readAhead? : (fuel : Nat) → Scope → (negated : Bool) → Reading → Option (Node × Reading)
  | 0, _, _, _ => none
  | fuel + 1, scope, negated, r =>
    (readBody? fuel scope r).map fun (body, r) => (.ahead negated body, r)

/-- A look-behind, after its opening characters. Its width has to be fixed. -/
def readBehind? : (fuel : Nat) → Scope → (negated : Bool) → Reading → Option (Node × Reading)
  | 0, _, _, _ => none
  | fuel + 1, scope, negated, r =>
    let outer := r.behind
    let r := { r with behind := some (outer.getD r.opened) }
    (readBody? fuel scope r).bind fun (body, r) =>
      let width := widthOf r.closed body
      if width.greatest = some width.least then
        some (.behind negated width.least body, { r with behind := outer })
      else none

def readConditional? : (fuel : Nat) → Scope → Reading → Option (Node × Reading)
  | 0, _, _ => none
  | fuel + 1, scope, r =>
    (readUntil? ')' r).bind fun (name, r) =>
      let index? : Option (Nat × Bool) :=
        if isGroupName name then (r.names.find? (·.1 == name)).map fun (_, i) => (i, false)
        else if name.toList.all Char.isDigit then
          let i := numberOf 10 name.toList
          if i = 0 then none else some (i, true)
        else none
      index?.bind fun (index, byNumber) =>
        if r.behind.isSome && !r.canRefer index then none
        else
          let r := if byNumber then { r with conditions := index :: r.conditions } else r
          (readItems? fuel scope.inner [] r).bind fun (yes, r) =>
            let yes := Node.sequence yes.reverse
            match r.accept? '|' with
            | none =>
              (r.accept? ')').map fun r => (.conditional index yes .empty, r)
            | some r =>
              (readItems? fuel scope.inner [] r).bind fun (no, r) =>
                (r.accept? ')').map fun r =>
                  (.conditional index yes (.sequence no.reverse), r)

/-- What stands in parentheses, after the opening one. Flags for the whole pattern change the scope
and add nothing to it. -/
def readGroup? : (fuel : Nat) → Scope → List Node → Reading →
    Option (List Node × Scope × Reading)
  | 0, _, _, _ => none
  | fuel + 1, scope, done, r =>
    let push (result : Option (Node × Reading)) : Option (List Node × Scope × Reading) :=
      result.map fun (node, r) => (node :: done, scope, r)
    match r.accept? '?' with
    | none => push (readCapture? fuel scope none r)
    | some r =>
      match r.ahead with
      | .plain ':' :: rest =>
        push ((readBody? fuel scope { r with ahead := rest }).map fun (body, r) =>
          (.scoped .none .none body, r))
      | .plain '>' :: rest =>
        push ((readBody? fuel scope { r with ahead := rest }).map fun (body, r) => (.atomic body, r))
      | .plain '#' :: rest =>
        (skipComment? rest).map fun rest => (done, scope, { r with ahead := rest })
      | .plain '=' :: rest => push (readAhead? fuel scope false { r with ahead := rest })
      | .plain '!' :: rest => push (readAhead? fuel scope true { r with ahead := rest })
      | .plain '<' :: .plain '=' :: rest => push (readBehind? fuel scope false { r with ahead := rest })
      | .plain '<' :: .plain '!' :: rest => push (readBehind? fuel scope true { r with ahead := rest })
      | .plain '(' :: rest => push (readConditional? fuel scope { r with ahead := rest })
      | .plain 'P' :: .plain '<' :: rest =>
        (readUntil? '>' { r with ahead := rest }).bind fun (name, r) =>
          if isGroupName name then push (readCapture? fuel scope (some name) r) else none
      | .plain 'P' :: .plain '=' :: rest =>
        (readUntil? ')' { r with ahead := rest }).bind fun (name, r) =>
          (r.names.find? (·.1 == name)).bind fun (_, index) => push (referTo? index r)
      | _ =>
        (readFlags? r).bind fun (flags, r) =>
          match flags with
          | .whole on allScripts =>
            if scope.first && done.isEmpty then
              let flags := r.flags.union on
              some (done, { scope with verbose := flags.verbose },
                { r with flags, allScripts := r.allScripts || allScripts })
            else none
          | .group on off =>
            let verbose := (scope.verbose || on.verbose) && !off.verbose
            push ((readBody? fuel { scope with verbose } r).map fun (body, r) =>
              (.scoped on off body, r))

end

/-- A whole pattern: its tree and what it declared. -/
def read? (text : List Char) (flags : PatternFlags) : Option (Node × Reading) :=
  (tokens? text).bind fun ts =>
    (readBranches? (6 * ts.length + 6) ⟨flags.verbose, true, false⟩ [] (.start ts flags)).bind
      fun (node, r) =>
        if r.ahead.isEmpty && r.conditions.all (· ≤ r.opened) && !(r.flags.ascii && r.allScripts)
        then some (node, r)
        else none

end RecordQuery.Pattern
