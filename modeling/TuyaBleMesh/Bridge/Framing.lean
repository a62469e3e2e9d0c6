import TuyaBleMesh.Lib.JsonText

/-!
# Requests in pieces

`http_handler` of the bridge daemon as it receives a request: it reads once, and
takes what that read brings for the whole request. The texts are those of requests
in ASCII, in which a byte is a character.
-/

namespace TuyaBleMesh

open JsonText

/-! ### The handler -/

def crlf : List Char := ['\r', '\n']

/-- `text[text.find(mark) + len(mark):]`, or nothing if there is no mark. -/
def afterFirst (mark : List Char) : List Char → Option (List Char)
  | [] => none
  | c :: rest =>
    if mark.isPrefixOf (c :: rest) then some ((c :: rest).drop mark.length)
    else afterFirst mark rest

/-- `text.split("\r\n")[0]`. -/
def firstLine : List Char → List Char
  | [] => []
  | c :: rest => if crlf.isPrefixOf (c :: rest) then [] else c :: firstLine rest

/-- `text.split(" ")`. -/
def splitSpaces : List Char → List (List Char)
  | [] => [[]]
  | c :: rest =>
    if c = ' ' then [] :: splitSpaces rest
    else
      match splitSpaces rest with
      | [] => [[c]]
      | word :: words => (c :: word) :: words

/-- The method and the path of a request. -/
def methodAndPath (request : List Char) : List Char × List Char :=
  let parts := splitSpaces (firstLine request)
  (parts.headD [], parts.getD 1 ['/'])

/-- `_http_response`. -/
def httpResponse (status body : String) : List Char :=
  "HTTP/1.1 ".toList ++ status.toList ++ crlf ++ "Content-Type: application/json".toList ++ crlf ++
    "Content-Length: ".toList ++ (toString body.length).toList ++ crlf ++ crlf ++ body.toList

/-- What the handler finds outside of the request. -/
structure DaemonHost where
  /-- `time.time()`, as `json.dumps` writes it. -/
  time : String
  /-- The text of `LAST_RESULT`, if there is the file. -/
  lastResult : Option String
  /-- `json.dumps(json.loads(text))`, of an accepted text. -/
  redump : List Char → String
  /-- How writing to `PENDING_CMD` leaves the file when it raises. -/
  writeFailure : Option (Option String) := none

def queuedResponse : List Char := httpResponse "202 Accepted" "\x7b\"queued\": true\x7d"

/-- `POST /command`, with the request and the pending file: the response and the file. -/
def handleCommand (host : DaemonHost) (pending : Option String) (request : List Char) :
    Option (List Char) × Option String :=
  match afterFirst (crlf ++ crlf) request with
  | none => (some (httpResponse "400 Bad Request" "\x7b\"error\": \"No body\"\x7d"), pending)
  | some body =>
    if isJson body then
      match host.writeFailure with
      | none => (some queuedResponse, some (host.redump body))
      | some left => (none, left)
    else (some (httpResponse "400 Bad Request" "\x7b\"error\": \"Invalid JSON\"\x7d"), pending)

/-- What is done with the text of one read. -/
def handleText (host : DaemonHost) (pending : Option String) (request : List Char) :
    Option (List Char) × Option String :=
  let (method, path) := methodAndPath request
  if method = "GET".toList ∧ path = "/health".toList then
    (some (httpResponse "200 OK"
      ("\x7b\"status\": \"ok\", \"timestamp\": " ++ host.time ++ "\x7d")), pending)
  else if method = "GET".toList ∧ path = "/result".toList then
    (some (httpResponse "200 OK"
      (host.lastResult.getD "\x7b\"error\": \"No result available\"\x7d")), pending)
  else if method = "POST".toList ∧ path = "/command".toList then
    handleCommand host pending request
  else (some (httpResponse "404 Not Found" "\x7b\"error\": \"Not found\"\x7d"), pending)

/-- The size of the buffer that `reader.read` is given. -/
def READ_SIZE : Nat := 4096

/-- `http_handler`, with what the reads of the request bring one after the other. -/
def httpHandler (host : DaemonHost) (pending : Option String) (reads : List (List Char)) :
    Option (List Char) × Option String :=
  handleText host pending (reads.headD [])

/-! ### The requests of a client -/

/-- A line of the header, with a name and without a line break. -/
abbrev HeaderLine := { line : List Char // line ≠ [] ∧ ∀ c ∈ line, c ≠ '\r' ∧ c ≠ '\n' }

/-- The text that `json.dumps` makes of a `dict`. -/
abbrev ObjectText := { text : List Char // isJson text = true ∧ text.getLast? = some '}' }

/-- The paths that `_http_get` is called with. -/
inductive BridgeQuery
  | health
  | result

def BridgeQuery.path : BridgeQuery → List Char
  | .health => "/health".toList
  | .result => "/result".toList

/-- What `_http_get` and `_http_post` send. -/
inductive ClientRequest
  | get (query : BridgeQuery) (header : List HeaderLine)
  | post (header : List HeaderLine) (body : ObjectText)

namespace ClientRequest

/-- Method and path. -/
def target : ClientRequest → List Char
  | .get query _ => "GET ".toList ++ query.path
  | .post _ _ => "POST /command".toList

def headerText (header : List HeaderLine) : List Char := header.flatMap fun line => line.val ++ crlf

/-- What comes after the path. -/
def remainder : ClientRequest → List Char
  | .get _ header => " HTTP/1.1".toList ++ crlf ++ headerText header ++ crlf
  | .post header body => " HTTP/1.1".toList ++ crlf ++ headerText header ++ crlf ++ body.val

def text (request : ClientRequest) : List Char := request.target ++ request.remainder

/-- How much of the request the first read has to bring. -/
def needed (request : ClientRequest) : Nat :=
  match request with
  | .get _ _ => request.target.length
  | .post _ _ => request.text.length

/-- What is promised of a request that arrives in several reads. -/
structure Framed (host : DaemonHost) (pending : Option String) (request : ClientRequest)
    (reads : List (List Char)) : Prop where
  same : httpHandler host pending reads = httpHandler host pending [request.text]
  queued : ∀ header body, request = .post header body → host.writeFailure = none →
    httpHandler host pending reads = (some queuedResponse, some (host.redump body.val))

end ClientRequest

/-- The reads bring the text, one part after the other. -/
structure ArrivesIn (text : List Char) (reads : List (List Char)) : Prop where
  whole : reads.flatten = text
  nonempty : ∀ read ∈ reads, read ≠ []
  fits : ∀ read ∈ reads, read.length ≤ READ_SIZE

/-! ### Lines and words -/

section Texts

variable {a b : List Char} {mark : List Char}

theorem firstLine_append (plain : ∀ c ∈ a, c ≠ '\r') : firstLine (a ++ b) = a ++ firstLine b := by
  -- the first line ends only behind what has no carriage return
  induction a with
  | nil => rfl
  | cons c a ih =>
    have other : c ≠ '\r' := plain c List.mem_cons_self
    have here : crlf.isPrefixOf (c :: (a ++ b)) = false := by
      rw [crlf, List.isPrefixOf, beq_false_of_ne other.symm, Bool.false_and]
    rw [List.cons_append, firstLine, here, ih fun d member => plain d (List.mem_cons_of_mem c member)]
    rfl

/-- A word ends at a space or with the text. -/
theorem splitSpaces_word (plain : ∀ c ∈ a, c ≠ ' ') :
    splitSpaces a = [a] ∧ splitSpaces (a ++ ' ' :: b) = a :: splitSpaces b := by
  induction a with
  | nil => exact ⟨rfl, rfl⟩
  | cons c a ih =>
    have other : c ≠ ' ' := plain c List.mem_cons_self
    obtain ⟨last, inner⟩ := ih fun d member => plain d (List.mem_cons_of_mem c member)
    constructor
    · rw [splitSpaces, if_neg other, last]
    · rw [List.cons_append, splitSpaces, if_neg other, inner]

/-- The text goes on with another word, or ends. -/
def EndsWord (b : List Char) : Prop := b = [] ∨ ∃ rest, b = ' ' :: rest

theorem splitSpaces_head (plain : ∀ c ∈ a, c ≠ ' ') (ends : EndsWord b) :
    ∃ words, splitSpaces (a ++ b) = a :: words := by
  rcases ends with rfl | ⟨rest, rfl⟩
  · rw [List.append_nil]
    exact ⟨[], (splitSpaces_word (b := []) plain).1⟩
  · exact ⟨splitSpaces rest, (splitSpaces_word plain).2⟩

theorem endsWord_firstLine (ends : EndsWord b) : EndsWord (firstLine b) := by
  rcases ends with rfl | ⟨rest, rfl⟩
  · exact .inl rfl
  · exact .inr ⟨firstLine rest, rfl⟩

/-- Method and path are read off when the path has ended. -/
theorem methodAndPath_of_words {method path : List Char}
    (plainMethod : ∀ c ∈ method, c ≠ ' ' ∧ c ≠ '\r') (plainPath : ∀ c ∈ path, c ≠ ' ' ∧ c ≠ '\r')
    (ends : EndsWord b) : methodAndPath (method ++ ' ' :: path ++ b) = (method, path) := by
  have plain : ∀ c ∈ method ++ ' ' :: path, c ≠ '\r' := by
    intro c member
    rcases List.mem_append.mp member with member | member
    · exact (plainMethod c member).2
    · rcases List.mem_cons.mp member with rfl | member
      · decide
      · exact (plainPath c member).2
  obtain ⟨words, rest⟩ := splitSpaces_head (fun c member => (plainPath c member).1)
    (endsWord_firstLine ends)
  unfold methodAndPath
  rw [firstLine_append plain, List.append_assoc, List.cons_append,
    (splitSpaces_word fun c member => (plainMethod c member).1).2, rest]
  rfl

/-- What is behind a mark is the end of the text, and before it there is room for the mark. -/
theorem afterFirst_suffix {rest : List Char} (found : afterFirst mark a = some rest) :
    ∃ before, a = before ++ rest ∧ mark.length ≤ before.length := by
  induction a with
  | nil => cases found
  | cons c a ih =>
    rw [afterFirst] at found
    -- the mark starts here, or the rest is searched
    split at found
    · next starts =>
      obtain ⟨tail, whole⟩ := List.isPrefixOf_iff_prefix.mp starts
      rw [← whole, List.drop_left] at found
      cases found
      exact ⟨mark, whole.symm, Nat.le_refl _⟩
    · obtain ⟨before, whole, room⟩ := ih found
      exact ⟨c :: before, by rw [whole, List.cons_append], Nat.le_succ_of_le room⟩

/-- What is found in a beginning is found there in the whole. -/
theorem afterFirst_append {rest : List Char} (found : afterFirst mark a = some rest) :
    afterFirst mark (a ++ b) = some (rest ++ b) := by
  induction a with
  | nil => cases found
  | cons c a ih =>
    rw [afterFirst] at found
    rw [List.cons_append, afterFirst]
    split at found
    · next starts =>
      have starts' : mark.isPrefixOf (c :: (a ++ b)) = true := by
        rw [List.isPrefixOf_iff_prefix] at starts ⊢
        exact starts.trans (List.prefix_append (c :: a) b)
      rw [if_pos starts', ← Option.some.inj found]
      have within : mark.length ≤ (c :: a).length := (List.isPrefixOf_iff_prefix.mp starts).length_le
      rw [← List.cons_append, List.drop_append_of_le_length within]
    · next other =>
      -- the later mark lies within the beginning, so none starts here in the whole either
      have absent : mark.isPrefixOf (c :: (a ++ b)) = false := by
        obtain ⟨before, whole, room⟩ := afterFirst_suffix found
        rw [Bool.eq_false_iff]
        intro starts
        refine other (List.isPrefixOf_iff_prefix.mpr ?_)
        refine List.prefix_of_prefix_length_le (List.isPrefixOf_iff_prefix.mp starts)
          (List.prefix_append (c :: a) b) ?_
        rw [List.length_cons, whole, List.length_append]
        omega
      rw [if_neg (Bool.eq_false_iff.mp absent), ih found]

theorem afterFirst_mark (some_mark : mark ≠ []) : afterFirst mark (mark ++ b) = some b := by
  obtain ⟨c, rest, rfl⟩ := List.exists_cons_of_ne_nil some_mark
  have starts : (c :: rest).isPrefixOf (c :: (rest ++ b)) = true :=
    List.isPrefixOf_iff_prefix.mpr (List.prefix_append (c :: rest) b)
  rw [List.cons_append, afterFirst, if_pos starts, ← List.cons_append, List.drop_left]

/-- A text without a carriage return holds no beginning of a blank line. -/
theorem afterFirst_plain (plain : ∀ c ∈ a, c ≠ '\r') :
    afterFirst (crlf ++ crlf) (a ++ b) = afterFirst (crlf ++ crlf) b := by
  induction a with
  | nil => rfl
  | cons c a ih =>
    have other : c ≠ '\r' := plain c List.mem_cons_self
    have here : (crlf ++ crlf).isPrefixOf (c :: (a ++ b)) = false := by
      rw [crlf, List.cons_append, List.isPrefixOf, beq_false_of_ne other.symm, Bool.false_and]
    rw [List.cons_append, afterFirst, if_neg (Bool.eq_false_iff.mp here)]
    exact ih fun d member => plain d (List.mem_cons_of_mem c member)

/-- A line break before a text that does not begin with another. -/
theorem afterFirst_break {c : Char} (other : c ≠ '\r') :
    afterFirst (crlf ++ crlf) (crlf ++ c :: b) = afterFirst (crlf ++ crlf) (c :: b) := by
  have atReturn : (crlf ++ crlf).isPrefixOf ('\r' :: '\n' :: c :: b) = false := by
    simp [crlf, List.isPrefixOf, other.symm]
  have atFeed : (crlf ++ crlf).isPrefixOf ('\n' :: c :: b) = false := by
    simp [crlf, List.isPrefixOf]
  change afterFirst (crlf ++ crlf) ('\r' :: '\n' :: c :: b) = _
  rw [afterFirst, if_neg (Bool.eq_false_iff.mp atReturn), afterFirst,
    if_neg (Bool.eq_false_iff.mp atFeed)]

/-- The body is what follows the header. -/
theorem afterFirst_header (header : List HeaderLine) (body : List Char) :
    afterFirst (crlf ++ crlf) (crlf ++ (ClientRequest.headerText header ++ (crlf ++ body))) =
      some body := by
  induction header with
  | nil =>
    change afterFirst (crlf ++ crlf) (crlf ++ (crlf ++ body)) = _
    rw [← List.append_assoc, afterFirst_mark (by decide)]
  | cons line header ih =>
    obtain ⟨line, some_line, plain⟩ := line
    have text : ClientRequest.headerText (⟨line, some_line, plain⟩ :: header) =
        line ++ crlf ++ ClientRequest.headerText header := rfl
    obtain ⟨c, rest, rfl⟩ := List.exists_cons_of_ne_nil some_line
    rw [text, List.append_assoc, List.append_assoc, List.cons_append,
      afterFirst_break (plain c List.mem_cons_self).1, ← List.cons_append,
      afterFirst_plain fun d member => (plain d member).1]
    exact ih

end Texts

/-! ### Responses -/

section Responses

variable {host : DaemonHost} {pending : Option String} {request : ClientRequest}

/-- The code in the status line of a response. -/
def statusCode (response : List Char) : List Char := (response.drop 9).take 3

@[simp] theorem statusCode_httpResponse (status body : String) (code : 3 ≤ status.toList.length) :
    statusCode (httpResponse status body) = status.toList.take 3 := by
  unfold httpResponse statusCode
  simp only [List.append_assoc]
  rw [List.drop_left' (by decide), List.take_append_of_le_length code]

/-- The codes of the responses that are made of a text. -/
def statusOf (outcome : Option (List Char) × Option String) : Option (List Char) :=
  outcome.1.map statusCode

/-- The routes of the handler. -/
def routes : List (List Char × List Char) :=
  [("GET".toList, "/health".toList), ("GET".toList, "/result".toList),
    ("POST".toList, "/command".toList)]

theorem statusOf_unrouted {text : List Char} (other : methodAndPath text ∉ routes) :
    statusOf (handleText host pending text) = some ['4', '0', '4'] := by
  rcases found : methodAndPath text with ⟨method, path⟩
  simp only [found, routes, List.mem_cons, Prod.mk.injEq, List.not_mem_nil, or_false,
    not_or] at other
  obtain ⟨health, result, command⟩ := other
  -- none of the three routes is taken
  simp only [handleText, found, if_neg health, if_neg result, if_neg command]
  rw [statusOf, Option.map_some, statusCode_httpResponse _ _ (by decide)]
  decide

/-- What a query is answered. -/
def queryResponse (host : DaemonHost) : BridgeQuery → List Char
  | .health => httpResponse "200 OK"
      ("\x7b\"status\": \"ok\", \"timestamp\": " ++ host.time ++ "\x7d")
  | .result => httpResponse "200 OK"
      (host.lastResult.getD "\x7b\"error\": \"No result available\"\x7d")

variable (host pending) in
theorem handleText_query {text : List Char} {query : BridgeQuery}
    (routed : methodAndPath text = ("GET".toList, query.path)) :
    handleText host pending text = (some (queryResponse host query), pending) := by
  unfold handleText
  rw [routed]
  cases query with
  | health => exact if_pos ⟨rfl, rfl⟩
  | result => exact (if_neg (by decide)).trans (if_pos ⟨rfl, rfl⟩)

theorem handleText_command {text : List Char}
    (routed : methodAndPath text = ("POST".toList, "/command".toList)) :
    handleText host pending text = handleCommand host pending text := by
  unfold handleText
  rw [routed]
  exact (if_neg (by decide)).trans ((if_neg (by decide)).trans (if_pos ⟨rfl, rfl⟩))

variable (host pending) in
theorem statusOf_query (query : BridgeQuery) :
    statusOf (some (queryResponse host query), pending) = some ['2', '0', '0'] := by
  cases query with
  | health =>
    rw [queryResponse, statusOf, Option.map_some, statusCode_httpResponse _ _ (by decide)]
    decide
  | result =>
    rw [queryResponse, statusOf, Option.map_some, statusCode_httpResponse _ _ (by decide)]
    decide

theorem statusOf_queued (file : Option String) :
    statusOf (some queuedResponse, file) = some ['2', '0', '2'] := by
  rw [queuedResponse, statusOf, Option.map_some, statusCode_httpResponse _ _ (by decide)]
  decide

/-- A command without the whole of its body is a bad request. -/
theorem statusOf_bad {text : List Char}
    (bad : ∀ body, afterFirst (crlf ++ crlf) text = some body → isJson body = false) :
    statusOf (handleCommand host pending text) = some ['4', '0', '0'] := by
  unfold handleCommand
  cases found : afterFirst (crlf ++ crlf) text with
  | none =>
    dsimp only
    rw [statusOf, Option.map_some, statusCode_httpResponse _ _ (by decide)]
    decide
  | some body =>
    dsimp only
    rw [bad body found, if_neg Bool.false_ne_true, statusOf, Option.map_some,
      statusCode_httpResponse _ _ (by decide)]
    decide

/-- A command with its body is queued, unless the file cannot be written. -/
theorem handleCommand_whole {text : List Char} {body : ObjectText}
    (found : afterFirst (crlf ++ crlf) text = some body.val) :
    handleCommand host pending text =
      match host.writeFailure with
      | none => (some queuedResponse, some (host.redump body.val))
      | some left => (none, left) := by
  unfold handleCommand
  rw [found]
  dsimp only
  rw [if_pos body.property.1]

end Responses

/-! ### The first read -/

namespace ClientRequest

variable {host : DaemonHost} {pending : Option String} {request : ClientRequest}
  {first more : List Char}

theorem remainder_space (request : ClientRequest) : ∃ rest, request.remainder = ' ' :: rest := by
  cases request with
  | get query header => exact ⟨_, rfl⟩
  | post header body => exact ⟨_, rfl⟩

/-- The path has ended where the first read ends, or behind a space. -/
theorem endsWord_of_starts (front : more <+: request.remainder) : EndsWord more := by
  obtain ⟨rest, space⟩ := request.remainder_space
  -- a read that ends with the path, or one that brings the space behind it
  cases more with
  | nil => exact .inl rfl
  | cons c more =>
    obtain ⟨back, whole⟩ := front
    rw [space, List.cons_append] at whole
    exact .inr ⟨more, by rw [(List.cons.inj whole).1]⟩

theorem methodAndPath_get (query : BridgeQuery) (header : List HeaderLine)
    (ends : EndsWord more) :
    methodAndPath ((get query header).target ++ more) = ("GET".toList, query.path) := by
  have plain : ∀ c ∈ "GET".toList, c ≠ ' ' ∧ c ≠ '\r' := by simp
  cases query with
  | health =>
    have path : ∀ c ∈ "/health".toList, c ≠ ' ' ∧ c ≠ '\r' := by simp
    exact methodAndPath_of_words plain path ends
  | result =>
    have path : ∀ c ∈ "/result".toList, c ≠ ' ' ∧ c ≠ '\r' := by simp
    exact methodAndPath_of_words plain path ends

theorem methodAndPath_post (header : List HeaderLine) (body : ObjectText)
    (ends : EndsWord more) :
    methodAndPath ((post header body).target ++ more) = ("POST".toList, "/command".toList) := by
  have method : ∀ c ∈ "POST".toList, c ≠ ' ' ∧ c ≠ '\r' := by simp
  have path : ∀ c ∈ "/command".toList, c ≠ ' ' ∧ c ≠ '\r' := by simp
  exact methodAndPath_of_words method path ends

/-- No beginning of method and path is that of another route. -/
theorem take_target_unrouted {n : Nat} (short : n < request.target.length) :
    methodAndPath (request.target.take n) ∉ routes := by
  -- all beginnings of the three targets are looked at one by one
  have health : ∀ n < 11, methodAndPath ("GET /health".toList.take n) ∉ routes := by decide
  have result : ∀ n < 11, methodAndPath ("GET /result".toList.take n) ∉ routes := by decide
  have command : ∀ n < 13, methodAndPath ("POST /command".toList.take n) ∉ routes := by decide
  cases request with
  | get query header =>
    cases query with
    | health => exact health n short
    | result => exact result n short
  | post header body => exact command n short

/-- The first read ends within method and path, or brings both. -/
theorem first_cases (front : first <+: request.text) :
    (first.length < request.target.length ∧
        first = request.target.take first.length) ∨
      ∃ more, first = request.target ++ more ∧ more <+: request.remainder := by
  rcases Nat.lt_or_ge first.length request.target.length with short | long
  · have within : first <+: request.target :=
      List.prefix_of_prefix_length_le front (List.prefix_append _ _) (Nat.le_of_lt short)
    exact .inl ⟨short, List.prefix_iff_eq_take.mp within⟩
  · obtain ⟨more, rfl⟩ := List.prefix_of_prefix_length_le (List.prefix_append _ _) front long
    exact .inr ⟨more, rfl, (List.prefix_append_right_inj _).mp front⟩

variable (host pending) in
theorem statusOf_short (short : first.length < request.target.length)
    (taken : first = request.target.take first.length) :
    statusOf (handleText host pending first) = some ['4', '0', '4'] := by
  rw [taken]
  exact statusOf_unrouted (take_target_unrouted short)

theorem afterFirst_text (header : List HeaderLine) (body : ObjectText) :
    afterFirst (crlf ++ crlf) (post header body).text = some body.val := by
  have path : ∀ c ∈ "POST /command".toList, c ≠ '\r' := by simp
  have version : ∀ c ∈ " HTTP/1.1".toList, c ≠ '\r' := by simp
  -- neither the target nor the version holds a carriage return
  have parts : (post header body).text = "POST /command".toList ++ (" HTTP/1.1".toList ++
      (crlf ++ (headerText header ++ (crlf ++ body.val)))) := by
    change "POST /command".toList ++ (" HTTP/1.1".toList ++ crlf ++ headerText header ++ crlf ++
      body.val) = _
    simp only [List.append_assoc]
  rw [parts, afterFirst_plain path, afterFirst_plain version, afterFirst_header]

/-- The whole of a command. -/
theorem handleText_post (header : List HeaderLine) (body : ObjectText) :
    handleText host pending (post header body).text =
      match host.writeFailure with
      | none => (some queuedResponse, some (host.redump body.val))
      | some left => (none, left) := by
  rw [text, handleText_command
    (methodAndPath_post header body (endsWord_of_starts (List.prefix_refl _)))]
  exact handleCommand_whole (afterFirst_text header body)

variable (host pending) in
theorem statusOf_post (header : List HeaderLine) (body : ObjectText) :
    statusOf (handleText host pending (post header body).text) = some ['2', '0', '2'] ∨
      statusOf (handleText host pending (post header body).text) = none := by
  rw [handleText_post]
  cases host.writeFailure with
  | none => exact .inl (statusOf_queued _)
  | some left => exact .inr rfl

variable (host pending) in
/-- A part of a command is not accepted. -/
theorem statusOf_part {header : List HeaderLine} {body : ObjectText}
    (front : first <+: (post header body).text)
    (short : first.length < (post header body).text.length) :
    statusOf (handleText host pending first) = some ['4', '0', '4'] ∨
      statusOf (handleText host pending first) = some ['4', '0', '0'] := by
  rcases first_cases front with ⟨within, taken⟩ | ⟨more, whole, within⟩
  · exact .inl (statusOf_short host pending within taken)
  · right
    have routed := methodAndPath_post header body (endsWord_of_starts within)
    rw [← whole] at routed
    rw [handleText_command routed]
    apply statusOf_bad
    intro begun found
    obtain ⟨back, joined⟩ := front
    have all := afterFirst_append (b := back) found
    rw [joined, afterFirst_text] at all
    -- what the part holds of the body is the beginning of it
    have parts : body.val = begun ++ back := Option.some.inj all
    have some_back : back ≠ [] := by
      rintro rfl
      rw [← joined, List.append_nil] at short
      exact Nat.lt_irrefl _ short
    -- the body ends with its brace, which is in the part that is missing
    have brace : back.getLast? = some '}' := by
      rw [← List.getLast?_append_of_ne_nil begun some_back, ← parts]
      exact body.property.2
    rw [Bool.eq_false_iff]
    intro accepted
    have whole := body.property.1
    rw [parts] at whole
    exact isJson_beginning whole accepted brace

/-- A request is handled as if it came in one read exactly if its first read brings what
is needed of it. -/
theorem framed_iff (host : DaemonHost) (pending : Option String) {request : ClientRequest}
    {reads : List (List Char)} (arrives : ArrivesIn request.text reads) :
    request.Framed host pending reads ↔ request.needed ≤ (reads.headD []).length := by
  have front : reads.headD [] <+: request.text := by
    rw [← arrives.whole]
    cases reads with
    | nil => exact List.nil_prefix
    | cons first rest => exact List.prefix_append first rest.flatten
  cases request with
  | get query header =>
    have ends : EndsWord (get query header).remainder :=
      endsWord_of_starts (List.prefix_refl _)
    have answered := handleText_query host pending
      (methodAndPath_get query header ends)
    constructor
    · intro framed
      by_contra short
      rcases first_cases front with ⟨within, taken⟩ | ⟨more, whole, -⟩
      -- an answer of 404 is not that of the whole query
      · have refused := statusOf_short host pending within taken
        have same := framed.same
        unfold httpHandler at same
        rw [same] at refused
        have status := statusOf_query host pending query
        rw [← answered] at status
        exact absurd (refused.symm.trans status) (by decide)
      · apply short
        rw [whole, List.length_append]
        exact Nat.le_add_right _ _
    · intro enough
      rcases first_cases front with ⟨within, -⟩ | ⟨more, whole, within⟩
      · exact absurd enough (Nat.not_le_of_lt within)
      · refine ⟨?_, fun _ _ other => nomatch other⟩
        have routed := methodAndPath_get query header (endsWord_of_starts within)
        unfold httpHandler
        rw [whole, handleText_query host pending routed]
        exact answered.symm
  | post header body =>
    constructor
    · intro framed
      by_contra short
      have refused := statusOf_part host pending front
        (Nat.lt_of_not_le short)
      have same := framed.same
      change handleText host pending (reads.headD []) =
        handleText host pending (post header body).text at same
      rw [same] at refused
      have status := statusOf_post host pending header body
      -- the whole is answered 202 or not at all, a part 404 or 400
      rcases refused with refused | refused
      all_goals
        rw [refused] at status
        exact absurd status (by decide)
    · intro enough
      -- the first read is the whole request
      have whole : reads.headD [] = (post header body).text :=
        front.eq_of_length_le enough
      have same : httpHandler host pending reads =
          httpHandler host pending [(post header body).text] := by
        unfold httpHandler
        rw [whole]
        rfl
      refine ⟨same, ?_⟩
      intro header' body' sent works
      cases sent
      rw [same]
      unfold httpHandler
      change handleText host pending (post header body).text = _
      rw [handleText_post, works]

def quietHost : DaemonHost where
  time := "1700000000.0"
  lastResult := none
  redump := fun text => String.ofList text

/-- A query whose path is in the first read. -/
theorem healthQuery_framed :
    (get .health []).Framed quietHost none ["GET /health HT".toList, "TP/1.1\r\n\r\n".toList] :=
  (framed_iff quietHost none ⟨by decide, by decide, by decide⟩).mpr (by decide)

def turnOn : ObjectText := ⟨"\x7b\"action\": \"on\"\x7d".toList, by decide, by decide⟩

/-- A command whose header and body come in two reads is refused. -/
theorem splitCommand_refused :
    let reads := ["POST /command HTTP/1.1\r\n\r\n".toList, turnOn.val]
    ArrivesIn (post [] turnOn).text reads ∧
      httpHandler quietHost none reads =
        (some (httpResponse "400 Bad Request" "\x7b\"error\": \"Invalid JSON\"\x7d"), none) ∧
      httpHandler quietHost none [(post [] turnOn).text] =
        (some queuedResponse, some "\x7b\"action\": \"on\"\x7d") ∧
      ¬ (post [] turnOn).Framed quietHost none reads := by
  refine ⟨⟨by decide, by decide, by decide⟩, by decide, by decide, ?_⟩
  intro framed
  exact absurd framed.same (by decide)

end ClientRequest

end TuyaBleMesh
