import TableProfile.Number.Digits
import TableProfile.Number.Integer
import TableProfile.Text.Blank
import TableProfile.Text.Utf8

/-!
# Connection strings

How to reach a database server, as one text. It is either a list of
parameters, each a keyword, an equals sign and a value, or an address
that begins with the name of the protocol: user and password, hosts with
their ports, the database, and further parameters after a question mark.
In an address, any byte may be written as a percent sign with two
hexadecimal digits.

A parameter is accepted if its keyword is known and its value is one that
the keyword admits. A connection needs a database; the rest has defaults.
-/

namespace TableProfile.Sql

open Number Text

/-- **A parameter of a connection**: its keyword and its value. -/
structure Parameter where
  /-- The keyword. -/
  keyword : String
  /-- The value. -/
  value : String
  deriving DecidableEq, Repr

/-- **Why a connection string cannot be used.** -/
inductive ConnectionFault where
  /-- It is neither an address nor a list of parameters. -/
  | unreadable
  /-- It names no database. -/
  | noDatabase
  /-- The name of the database is empty. -/
  | emptyDatabase
  deriving DecidableEq, Repr

/-- The wording of the fault. -/
def ConnectionFault.message : ConnectionFault → String
  | unreadable => "Config: configuration property \"url\" is invalid: invalid connection string"
  | noDatabase => "Config: configuration property \"dbname\" not found"
  | emptyDatabase => "Config: configuration property \"dbname\" contains an empty string"

/-! ## Internet addresses -/

/-- Text cut at every occurrence of a character; there is always a piece. -/
def pieces (separator : Char) : List Char → List (List Char)
  | [] => [[]]
  | c :: rest =>
    if c = separator then [] :: pieces separator rest
    else match pieces separator rest with
      | [] => [[c]]
      | first :: others => (c :: first) :: others

/-- Four numbers below 256 without leading zeros, with dots between. -/
def isFourPart (text : List Char) : Bool :=
  let parts := pieces '.' text
  parts.length == 4 && parts.all fun part =>
    part.length ≤ 3 && (part.head? != some '0' || part == ['0'])
      && ((natural? part).any (· < 256))

/-- Whether a character is a hexadecimal digit. -/
def isHexadecimal (c : Char) : Bool :=
  (Number.digitIn? 16 c).isSome

/-- The number of groups in a run of hexadecimal groups with colons
between. The last may be a four-part address, which counts as two, where
that is allowed. -/
def groupCount? (fourPartAllowed : Bool) (text : List Char) : Option Nat :=
  if text = [] then some 0
  else
    let groups := pieces ':' text
    let isGroup (group : List Char) :=
      group != [] && group.length ≤ 4 && group.all isHexadecimal
    if groups.all isGroup then some groups.length
    else if fourPartAllowed && groups.dropLast.all isGroup && isFourPart (groups.getLastD [])
    then some (groups.length + 1)
    else none

/-- The texts before and after the first double colon. -/
def aroundDoubleColon? : List Char → Option (List Char × List Char)
  | ':' :: ':' :: rest => some ([], rest)
  | c :: rest => (aroundDoubleColon? rest).map fun (before, after) => (c :: before, after)
  | [] => none

/-- Eight groups, of which a double colon may stand for one or more. -/
def isEightPart (text : List Char) : Bool :=
  match aroundDoubleColon? text with
  | none => groupCount? true text == some 8
  | some (before, after) =>
    match groupCount? false before, groupCount? true after with
    | some m, some n => m + n ≤ 7
    | _, _ => false

/-- Whether a text is a numeric internet address. -/
def isInternetAddress (text : List Char) : Bool :=
  isFourPart text || isEightPart text

/-! ## Parameters -/

/-- **Whether a keyword is known and admits a value.** -/
def Parameter.isAllowed (p : Parameter) : Bool :=
  let text := p.value.toList
  match p.keyword with
  | "user" | "password" | "dbname" | "options" | "application_name" | "host" => true
  | "sslmode" | "channel_binding" => p.value ∈ ["disable", "prefer", "require"]
  | "sslnegotiation" => p.value ∈ ["postgres", "direct"]
  | "hostaddr" => (pieces ',' text).all isInternetAddress
  | "port" => (pieces ',' text).all fun port =>
      port.isEmpty || (uint64? port).any (· < UInt16.size)
  | "connect_timeout" | "tcp_user_timeout" | "keepalives_idle" | "keepalives_interval" =>
    (int64? text).isSome
  | "keepalives" => (uint64? text).isSome
  | "keepalives_retries" => (uint64? text).any (· < UInt32.size)
  | "target_session_attrs" => p.value ∈ ["any", "read-write", "read-only"]
  | "load_balance_hosts" => p.value ∈ ["disable", "random"]
  | _ => false

/-- The parameter, if it is accepted. -/
def Parameter.accepted? (p : Parameter) : Option Parameter :=
  if p.isAllowed then some p else none

/-! ## Lists of parameters -/

/-- A value without quotes, up to white space; a backslash takes the next
character as it is. -/
def plainValue : List Char → List Char × List Char
  | [] => ([], [])
  | '\\' :: [] => ([], [])
  | '\\' :: c :: rest => (c :: (plainValue rest).1, (plainValue rest).2)
  | c :: rest =>
    if isBlank c then ([], c :: rest) else (c :: (plainValue rest).1, (plainValue rest).2)

/-- The inside of a quoted value and the text after the closing quote. -/
def quotedValue? : List Char → Option (List Char × List Char)
  | [] => none
  | '\'' :: rest => some ([], rest)
  | '\\' :: [] => none
  | '\\' :: c :: rest => (quotedValue? rest).map fun (value, rest) => (c :: value, rest)
  | c :: rest => (quotedValue? rest).map fun (value, rest) => (c :: value, rest)

/-- A value and the text after it. -/
def value? : List Char → Option (List Char × List Char)
  | '\'' :: rest => quotedValue? rest
  | text =>
    match plainValue text with
    | ([], _) => none
    | (value, rest) => some (value, rest)

theorem length_plainValue (text : List Char) :
    (plainValue text).2.length ≤ text.length := by
  fun_induction plainValue text <;> grind

theorem length_quotedValue? {text value rest : List Char}
    (h : quotedValue? text = some (value, rest)) : rest.length ≤ text.length := by
  fun_induction quotedValue? text generalizing value rest with
  | case1 | case3 => simp at h
  | case2 => simp_all
  | case4 _ _ ih | case5 _ _ _ _ _ ih =>
    obtain ⟨⟨_, _⟩, hv, h⟩ := Option.map_eq_some_iff.1 h
    have := ih hv
    simp only [Prod.mk.injEq, List.length_cons] at h ⊢
    rw [← h.2]
    omega

theorem length_value? {text value rest : List Char}
    (h : value? text = some (value, rest)) : rest.length ≤ text.length := by
  unfold value? at h
  split at h
  · have := length_quotedValue? h
    grind
  · have := length_plainValue text
    grind

/-- A keyword is what stands before white space or an equals sign. -/
def isKeywordCharacter (c : Char) : Bool :=
  !isBlank c && c != '='

/-- The first parameter and the text after it, if the text begins with
one. The outer `none` is a text that is none. -/
def firstParameter? (text : List Char) : Option (Parameter × List Char) :=
  match trimLeft (text.dropWhile isKeywordCharacter) with
  | '=' :: rest =>
    (value? (trimLeft rest)).map fun (value, rest) =>
      (⟨String.ofList (text.takeWhile isKeywordCharacter), String.ofList value⟩, rest)
  | _ => none

theorem length_firstParameter? {text rest : List Char} {p : Parameter}
    (h : firstParameter? text = some (p, rest)) : rest.length < text.length := by
  unfold firstParameter? at h
  split at h
  · rename_i after e
    rw [Option.map_eq_some_iff] at h
    obtain ⟨⟨value, rest'⟩, hv, h⟩ := h
    have h1 := length_value? hv
    have h2 := (List.dropWhile_sublist isBlank (l := after)).length_le
    have h3 := (List.dropWhile_sublist isBlank (l := text.dropWhile isKeywordCharacter)).length_le
    have h4 := (List.dropWhile_sublist isKeywordCharacter (l := text)).length_le
    have h5 := congrArg List.length e
    simp only [trimLeft, List.length_cons, Prod.mk.injEq] at *
    obtain ⟨-, rfl⟩ := h
    omega
  · simp at h

/-- **The parameters of a list**, up to the end or to an equals sign
without a keyword. -/
def listed? (text : List Char) : Option (List Parameter) :=
  match _h : trimLeft text with
  | [] => some []
  | c :: rest =>
    if c = '=' then some []
    else match _h' : firstParameter? (c :: rest) with
      | none => none
      | some (p, rest') => do
        let p ← p.accepted?
        let others ← listed? rest'
        return p :: others
termination_by text.length
decreasing_by
  have h1 := length_firstParameter? _h'
  have h2 := (List.dropWhile_sublist isBlank (l := text)).length_le
  have h3 := congrArg List.length _h
  simp only [trimLeft] at h3
  omega

/-! ## Addresses -/

/-- The bytes of a text in which a percent sign with two hexadecimal
digits stands for a byte. -/
def percentBytes : List Char → List UInt8
  | '%' :: a :: b :: rest =>
    match Number.numberIn? 16 [a, b] with
    | some byte => UInt8.ofNat byte :: percentBytes rest
    | none => 0x25 :: percentBytes (a :: b :: rest)
  | c :: rest => Utf8.encode c.toString ++ percentBytes rest
  | [] => []

/-- A part of an address as text. -/
def decoded? (part : List Char) : Option String :=
  (Utf8.decode (percentBytes part)).toOption.map String.ofList

/-- Splits a text in front of the first character of a kind; all of it is
the first part if there is none. -/
def splitBefore (stop : Char → Bool) (text : List Char) : List Char × List Char :=
  (text.takeWhile (!stop ·), text.dropWhile (!stop ·))

/-- Splits a text around the first occurrence of a character, if it has
one. -/
def splitAround? (c : Char) (text : List Char) : Option (List Char × List Char) :=
  match splitBefore (· == c) text with
  | (before, _ :: after) => some (before, after)
  | (_, []) => none

/-- What is after the character is shorter than the text. -/
theorem length_splitAround? {c : Char} {text before after : List Char}
    (h : splitAround? c text = some (before, after)) : after.length < text.length := by
  unfold splitAround? splitBefore at h
  split at h
  · rename_i e
    have h1 := (List.dropWhile_sublist (fun x => !(x == c)) (l := text)).length_le
    simp only [Prod.mk.injEq, Option.some.injEq] at e h
    rw [e.2, h.2] at h1
    simp only [List.length_cons] at h1
    omega
  · simp at h

/-- A host: a socket folder, which may be any bytes, or the name of a
machine, which has to be text. -/
def host? (part : List Char) : Option Parameter :=
  match percentBytes part with
  | 0x2f :: _ => some ⟨"host", String.ofList part⟩
  | _ => (decoded? part).map (⟨"host", ·⟩)

/-- A host with its port, in brackets if it has colons. -/
def hostAndPort? (part : List Char) : Option (List Parameter) := do
  let (host, port) ← match part with
    | '[' :: inside => do
      let (host, rest) ← splitAround? ']' inside
      match rest with
      | [] => some (host, none)
      | ':' :: port => some (host, some port)
      | _ => none
    | part =>
      match splitAround? ':' part with
      | some (host, port) => some (host, some port)
      | none => some (part, none)
  let host ← host? host
  let port ← decoded? (port.getD ['5', '4', '3', '2'])
  let port ← Parameter.accepted? ⟨"port", port⟩
  return [host, port]

/-- User and password. -/
def credentials? (part : List Char) : Option (List Parameter) := do
  match splitAround? ':' part with
  | some (user, password) =>
    return [⟨"user", ← decoded? user⟩, ⟨"password", String.ofList password⟩]
  | none => return [⟨"user", ← decoded? part⟩]

/-- A parameter after the question mark of an address. -/
def queriedParameter? (keyword value : List Char) : Option Parameter := do
  let keyword ← decoded? keyword
  if keyword = "host" then host? value
  else Parameter.accepted? ⟨keyword, ← decoded? value⟩

/-- The parameters after the question mark of an address. -/
def queried? (text : List Char) : Option (List Parameter) :=
  if text = [] then some []
  else match _h : splitAround? '=' text with
    | none => none
    | some (keyword, rest) => do
      let p ← queriedParameter? keyword (splitBefore (· == '&') rest).1
      let others ← queried? (splitBefore (· == '&') rest).2.tail
      return p :: others
termination_by text.length
decreasing_by
  have h1 := length_splitAround? _h
  have h2 := (List.dropWhile_sublist (fun c => !(c == '&')) (l := rest)).length_le
  simp only [splitBefore, List.length_tail]
  omega

/-- **The parameters of an address**, without the name of the protocol. -/
def addressed? (text : List Char) : Option (List Parameter) := do
  let (login, text) := (splitAround? '@' text).elim (none, text) fun (login, rest) =>
    (some login, rest)
  let (hosts, text) := splitBefore (fun c => c == '/' || c == '?') text
  let (path, query) := splitBefore (· == '?') text
  let login ← login.elim (some []) credentials?
  let hosts ← if hosts = [] then some [] else (pieces ',' hosts).mapM hostAndPort?
  let database ← if path.tail = [] then some []
    else (decoded? path.tail).map fun name => [⟨"dbname", name⟩]
  let further ← queried? query.tail
  return login ++ hosts.flatten ++ database ++ further

/-- The text after the name of the protocol, if there is one. -/
def address? (text : List Char) : Option (List Char) :=
  let names := ["postgres://", "postgresql://"].map String.toList
  (names.find? (·.isPrefixOf text)).map fun name => text.drop name.length

/-- **The parameters of a connection string.** -/
def parameters? (text : String) : Option (List Parameter) :=
  match address? text.toList with
  | some address => addressed? address
  | none => listed? text.toList

/-- The database of a connection; the last one named counts. -/
def database? (parameters : List Parameter) : Option String :=
  (parameters.reverse.find? (·.keyword == "dbname")).map (·.value)

/-- **Whether a connection string can be used**, and the database that it
names. -/
def databaseOf (text : String) : Except ConnectionFault String :=
  match parameters? text with
  | none => .error .unreadable
  | some parameters =>
    match database? parameters with
    | none => .error .noDatabase
    | some name => if name.isEmpty then .error .emptyDatabase else .ok name

end TableProfile.Sql
