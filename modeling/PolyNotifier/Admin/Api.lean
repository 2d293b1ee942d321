import PolyNotifier.Admin.Statements
import PolyNotifier.Common.Reference
import PolyNotifier.Lib.Serve

/-!
# The admin API

A request goes through the router of `build_router`: the authentication middleware is a layer
around all of it, so it sees every request, also one that no route takes. Behind it a handler
reads its arguments from the request, sends its statements and answers.

A request that is served is a program over `adminSig`, whose calls are statements and clock
readings. What axum, the standard library and SQLite compute is `AdminCrates`.
-/

namespace PolyNotifier
namespace Admin

open Lib (Sig Prog)

/-! ## Requests -/

inductive Method where
  | get
  | head
  | put
  | other
  deriving DecidableEq

/-- A request, as far as the router and the handlers look at it: the handlers extract path, headers
    and body, and no query string. -/
structure Request where
  method : Method
  /-- What is between the slashes of the path. -/
  path : List String
  /-- In order; the names are lower case, as `HeaderMap` keeps them. -/
  headers : List (String × List UInt8)
  body : List UInt8
  deriving DecidableEq

/-- `HeaderMap::get`: the first value. -/
def Request.header (req : Request) (name : String) : Option (List UInt8) :=
  (req.headers.find? fun h => h.1 == name).map Prod.snd

/-! ## Responses -/

abbrev StatusCode := Nat

namespace StatusCode

def ok : StatusCode := 200
def unauthorized : StatusCode := 401
def notFound : StatusCode := 404
def methodNotAllowed : StatusCode := 405
def unprocessableEntity : StatusCode := 422
def internalServerError : StatusCode := 500

end StatusCode

structure StatsResponse where
  totalUsers : Int
  activeSubscriptions : Int
  activeAlerts : Int
  activeMarkets : Int
  notificationsToday : Int
  deriving DecidableEq

/-- `{"error": ..}` is `error`; `text` is what axum says of a request it rejects. -/
inductive Body where
  | empty
  | text (s : String)
  | error (message : String)
  | tier (telegramId : Int) (tier : String)
  | limit (telegramId maxSubscriptions : Int)
  | users (entries : List Db.UserListEntry)
  | feedback (entries : List Db.FeedbackListEntry)
  | stats (s : StatsResponse)
  deriving DecidableEq

structure Response where
  status : StatusCode
  body : Body
  deriving DecidableEq

/-- How an extractor rejects a request: a path segment that does not parse, a body that is no JSON,
    is too long, is declared as something else, or is not of the type. `known` keeps the status
    apart from those the handlers answer with, so that an answer says where it was made. -/
structure Rejection where
  status : StatusCode
  text : String
  known : status = 400 ∨ status = 413 ∨ status = 415 ∨ status = 422

def Rejection.intoResponse (r : Rejection) : Response := ⟨r.status, .text r.text⟩

/-- What the handlers get from other crates. An extractor gives the field or the rejection as a
    whole: how axum finds out that a body is no JSON is not the program's business, and that a
    limit is an `i32` is part of the type it is read as. -/
structure AdminCrates where
  /-- `Path<i64>` of a captured segment -/
  pathI64 : String → Except Rejection Int
  /-- `Json<UpdateTierBody>`: the field `tier` -/
  jsonTier : Request → Except Rejection String
  /-- `Json<UpdateLimitBody>`: the field `max_subscriptions` -/
  jsonMaxSubscriptions : Request → Except Rejection { n : Int // InI32 n }
  /-- `str::to_lowercase` -/
  toLowercase : String → String
  /-- `format!("{s:?}")` -/
  debug : String → String
  /-- `strftime('%Y-%m-%dT%H:%M:%SZ', created_at)` -/
  strftime : NaiveDateTime → String

/-! ## Calls -/

/-- The statements of the handlers. The five counts of `get_stats` are five of them, since other
    requests may run between any two. -/
inductive Statement where
  | updateTier (tier : String) (now : NaiveDateTime) (telegramId : Int)
  | updateMaxSubscriptions (maxSubscriptions : Int) (now : NaiveDateTime) (telegramId : Int)
  | listUsers
  | listFeedback
  | countUsers
  | countSubscriptions
  | countActiveAlerts
  | countMarkets
  | countNotifications

namespace Statement

/-- The answer to a statement; the rows affected of an update. -/
abbrev Res : Statement → Type
  | updateTier .. => Nat
  | updateMaxSubscriptions .. => Nat
  | listUsers => List Db.UserListEntry
  | listFeedback => List Db.FeedbackListEntry
  | _ => Int

/-- `clock` is the time `date('now')` sees, `order` the order a query leaves open. -/
def exec (x : AdminCrates) (clock : NaiveDateTime) (order : List Nat) :
    (s : Statement) → Db → Except DbError (s.Res × Db)
  | updateTier tier now telegramId, d => d.updateTier tier now telegramId
  | updateMaxSubscriptions maxSubscriptions now telegramId, d =>
      d.updateMaxSubscriptions maxSubscriptions now telegramId
  | listUsers, d => d.listUsers.map fun entries => (entries, d)
  | listFeedback, d => .ok (d.listFeedback x.strftime order, d)
  | countUsers, d => .ok (d.countUsers, d)
  | countSubscriptions, d => .ok (d.countSubscriptions, d)
  | countActiveAlerts, d => .ok (d.countActiveAlerts, d)
  | countMarkets, d => .ok (d.countMarkets, d)
  | countNotifications, d => .ok (d.countNotifications clock, d)

end Statement

/-- The calls a handler can make: a statement, or a look at the clock. A handler waits at each, and
    another request may be served there. -/
inductive AdminOp where
  | sql (s : Statement)
  | now

abbrev AdminOp.Res : AdminOp → Type
  | .sql s => Except DbError s.Res
  | .now => NaiveDateTime

abbrev adminSig : Sig := ⟨AdminOp, AdminOp.Res⟩

/-- A request being served: it does not fail, it answers. What goes wrong in a handler comes out as
    a status, so the end of a program here is always a response. -/
abbrev Serving := Prog adminSig Empty Response

/-- A statement whose result the handler looks at. -/
def execute {ε : Type} (s : Statement) : Prog adminSig ε (Except DbError s.Res) :=
  .op (.sql s) fun (r : Except DbError s.Res) => .ret r

/-- A statement with `?`. -/
def fetch (s : Statement) : Prog adminSig DbError s.Res :=
  .op (.sql s) fun (r : Except DbError s.Res) =>
    match r with
    | .ok a => .ret a
    | .error e => .fail e

def utcNow {ε : Type} : Prog adminSig ε NaiveDateTime := .op .now fun (t : NaiveDateTime) => .ret t

/-! ## Handlers -/

def dbError : Response := ⟨.internalServerError, .error "internal database error"⟩

/-- The answer to an update: no row, or the new value. -/
def updated (telegramId : Int) (value : Body) : Except DbError Nat → Response
  | .error _ => dbError
  | .ok 0 =>
      ⟨.notFound, .error ("user with telegram_id " ++ ToString.toString telegramId ++
        " not found")⟩
  | .ok _ => ⟨.ok, value⟩

/-- `update_tier`. The tier is compared in lower case and stored so; one that is none of the three
    is answered before any call is made. -/
def updateTier (x : AdminCrates) (telegramId : Int) (body : String) : Serving :=
  let tier := x.toLowercase body
  if tier = "free" ∨ tier = "premium" ∨ tier = "unlimited" then do
    let now ← utcNow
    let result ← execute (.updateTier tier now telegramId)
    pure (updated telegramId (.tier telegramId tier) result)
  else
    pure ⟨.unprocessableEntity, .error ("invalid tier " ++ x.debug tier ++
      "; must be one of: free, premium, unlimited")⟩

def updateLimit (telegramId maxSubscriptions : Int) : Serving :=
  if maxSubscriptions < 0 then
    pure ⟨.unprocessableEntity, .error "max_subscriptions must be non-negative"⟩
  else do
    let now ← utcNow
    let result ← execute (.updateMaxSubscriptions maxSubscriptions now telegramId)
    pure (updated telegramId (.limit telegramId maxSubscriptions) result)

def listUsers : Serving := do
  match ← execute .listUsers with
  | .error _ => pure dbError
  | .ok users => pure ⟨.ok, .users users⟩

def listFeedback : Serving := do
  match ← execute .listFeedback with
  | .error _ => pure dbError
  | .ok entries => pure ⟨.ok, .feedback entries⟩

/-- `fetch_stats`: five statements, one after another, with no transaction around them. The five
    numbers need not be of one moment. -/
def fetchStats : Prog adminSig DbError StatsResponse := do
  let totalUsers ← fetch .countUsers
  let activeSubscriptions ← fetch .countSubscriptions
  let activeAlerts ← fetch .countActiveAlerts
  let activeMarkets ← fetch .countMarkets
  let notificationsToday ← fetch .countNotifications
  pure ⟨totalUsers, activeSubscriptions, activeAlerts, activeMarkets, notificationsToday⟩

def getStats : Serving := do
  match ← fetchStats.attempt with
  | .error _ => pure dbError
  | .ok s => pure ⟨.ok, .stats s⟩

/-! ## Routes -/

inductive Segment where
  | literal (s : String)
  /-- `{telegram_id}`: any segment, an empty one too. -/
  | telegramId
  deriving DecidableEq

/-- What the path captures, if it is the path of the route. -/
def captures : List Segment → List String → Option (List String)
  | [], [] => some []
  | .literal l :: ss, s :: path => if l = s then captures ss path else none
  | .telegramId :: ss, s :: path => (captures ss path).map (s :: ·)
  | _, _ => none

inductive Endpoint where
  | updateTier
  | updateLimit
  | listUsers
  | listFeedback
  | getStats
  deriving DecidableEq

namespace Endpoint

def path : Endpoint → List Segment
  | updateTier => [.literal "admin", .literal "users", .telegramId, .literal "tier"]
  | updateLimit => [.literal "admin", .literal "users", .telegramId, .literal "limit"]
  | listUsers => [.literal "admin", .literal "users"]
  | listFeedback => [.literal "admin", .literal "feedback"]
  | getStats => [.literal "admin", .literal "stats"]

/-- `put(..)` or `get(..)`. -/
def method : Endpoint → Method
  | updateTier => .put
  | updateLimit => .put
  | _ => .get

/-- The handler, with its extractors in the order of its arguments. -/
def handler (x : AdminCrates) (req : Request) (telegramId : String) : Endpoint → Serving
  | updateTier =>
      match x.pathI64 telegramId, x.jsonTier req with
      | .error r, _ => pure r.intoResponse
      | .ok _, .error r => pure r.intoResponse
      | .ok telegramId, .ok tier => Admin.updateTier x telegramId tier
  | updateLimit =>
      match x.pathI64 telegramId, x.jsonMaxSubscriptions req with
      | .error r, _ => pure r.intoResponse
      | .ok _, .error r => pure r.intoResponse
      | .ok telegramId, .ok n => Admin.updateLimit telegramId n
  | listUsers => Admin.listUsers
  | listFeedback => Admin.listFeedback
  | getStats => Admin.getStats

end Endpoint

/-- The routes, in the order of `build_router`. -/
def routes : List Endpoint := [.updateTier, .updateLimit, .listUsers, .listFeedback, .getStats]

/-- The route of a path, and what the path captures. -/
def findRoute (path : List String) : Option (Endpoint × List String) :=
  routes.findSome? fun e => (captures e.path path).map fun cs => (e, cs)

/-- The router. `get` also takes `HEAD`, and leaves the body of the answer out; a path that is
    there with another method is not the same as no path, and neither is answered before the layer
    has let the request in. -/
def dispatch (x : AdminCrates) (req : Request) : Serving :=
  match findRoute req.path with
  | none => pure ⟨.notFound, .empty⟩
  | some (e, cs) =>
      let handler := e.handler x req (cs.headD "")
      if req.method = e.method then handler
      else if req.method = .head ∧ e.method = .get then do
        let response ← handler
        pure { response with body := .empty }
      else pure ⟨.methodNotAllowed, .empty⟩

/-! ## Authentication -/

/-- `HeaderValue::to_str`: the bytes must be visible ASCII, blanks or tabs. -/
def isVisibleAscii (b : UInt8) : Bool := 32 ≤ b && b < 127 || b == 9

def toStr (value : List UInt8) : Option (List Char) :=
  if value.all isVisibleAscii then some (value.map fun b => Char.ofNat b.toNat) else none

/-- `str::strip_prefix`. -/
def stripPrefix : List Char → List Char → Option (List Char)
  | [], s => some s
  | _ :: _, [] => none
  | p :: ps, c :: s => if p = c then stripPrefix ps s else none

/-- `extract_bearer_token`. Every way of not having a token is the same answer: no header, bytes
    that are no visible ASCII, another scheme. -/
def extractBearerToken (req : Request) : Except StatusCode (List Char) :=
  match req.header "authorization" with
  | none => .error .unauthorized
  | some value =>
      match toStr value with
      | none => .error .unauthorized
      | some s =>
          match stripPrefix "Bearer ".toList s with
          | none => .error .unauthorized
          | some token => .ok token

structure AdminState where
  adminPassword : String

/-- `auth_middleware`: `next` is what the layer is around. -/
def authMiddleware (state : AdminState) (req : Request) (next : Serving) : Serving :=
  match extractBearerToken req with
  | .error status => pure ⟨status, .empty⟩
  | .ok token =>
      if token ≠ state.adminPassword.toList then pure ⟨.unauthorized, .empty⟩ else next

/-- `create_router`: a request, from the layer on. The layer is around all routes and around the
    answer for no route too, so an unauthorized request does not learn which paths there are. -/
def serve (x : AdminCrates) (state : AdminState) (req : Request) : Serving :=
  authMiddleware state req (dispatch x req)

/-! ## The database behind it -/

/-- Whether the database executes a statement, what the clock shows, and in what order the
    database finds the rows of a query, by the number of the call. -/
structure Env where
  database : Nat → Bool
  clock : Nat → NaiveDateTime
  order : Nat → List Nat

/-- What the requests share. `calls` only counts, so that each call of a run has its own answer of
    the environment. -/
structure Store where
  db : Db
  /-- How many calls there have been. -/
  calls : Nat

/-- What a call does. The database may fail to answer it, and where a query leaves the order of its
    rows open, the environment decides it, call by call. -/
def perform (x : AdminCrates) (env : Env) : (o : AdminOp) → Store → o.Res × Store
  | .sql s, w =>
      if env.database w.calls then
        match s.exec x (env.clock w.calls) (env.order w.calls) w.db with
        | .ok (a, d) => (.ok a, ⟨d, w.calls + 1⟩)
        | .error e => (.error e, { w with calls := w.calls + 1 })
      else (.error .unavailable, { w with calls := w.calls + 1 })
  | .now, w => (env.clock w.calls, { w with calls := w.calls + 1 })

/-! ## A sample -/

/-- The text of the bytes of a body, if they are one to a character. -/
def Request.text (req : Request) : List Char := req.body.map fun b => Char.ofNat b.toNat

/-- The digits a text consists of. -/
def parseDigits (s : List Char) : Option Nat :=
  if s ≠ [] ∧ s.all Char.isDigit then some (Nat.ofDigitChars 10 s 0) else none

/-- What is between a prefix and a last part. -/
def between (before after : String) (s : List Char) : Option (List Char) :=
  match stripPrefix before.toList s with
  | some rest => (stripPrefix after.toList.reverse rest.reverse).map List.reverse
  | none => none

/-- Functions that agree with the real ones on digits, on the two bodies with nothing but their
    field in them, on ASCII, and on text that needs no escape. -/
def AdminCrates.reference : AdminCrates where
  pathI64 s :=
    match parseDigits s.toList with
    | some n => .ok n
    | none => .error ⟨400, "Invalid URL", .inl rfl⟩
  jsonTier req :=
    match between "\x7b\"tier\":\"" "\"\x7d" req.text with
    | some tier => .ok (String.ofList tier)
    | none => .error ⟨422, "Failed to deserialize", .inr (.inr (.inr rfl))⟩
  jsonMaxSubscriptions req :=
    match (between "\x7b\"max_subscriptions\":" "\x7d" req.text).bind parseDigits with
    | some n =>
        if h : InI32 n then .ok ⟨n, h⟩
        else .error ⟨422, "Failed to deserialize", .inr (.inr (.inr rfl))⟩
    | none => .error ⟨422, "Failed to deserialize", .inr (.inr (.inr rfl))⟩
  toLowercase s := String.ofList (s.toList.map Char.toLower)
  debug s := "\"" ++ s ++ "\""
  strftime _ := "1970-01-01T00:00:00Z"

/-- The bytes of an ASCII text. -/
def ascii (s : String) : List UInt8 := s.toList.map fun c => c.toNat.toUInt8

/-- A request with the password `s3cr3t`. -/
def sampleRequest (method : Method) (path : List String) (body : String) : Request :=
  ⟨method, path, [("authorization", ascii "Bearer s3cr3t"),
    ("content-type", ascii "application/json")], ascii body⟩

/-- The three reports, two updates for Telegram user 7, and one with another password. -/
def sampleRequests : List Request :=
  [sampleRequest .get ["admin", "stats"] "", sampleRequest .get ["admin", "users"] "",
    sampleRequest .get ["admin", "feedback"] "",
    sampleRequest .put ["admin", "users", "7", "tier"] "\x7b\"tier\":\"Premium\"\x7d",
    sampleRequest .put ["admin", "users", "7", "limit"] "\x7b\"max_subscriptions\":50\x7d",
    ⟨.put, ["admin", "users", "7", "tier"], [("authorization", ascii "Bearer secret")],
      ascii "\x7b\"tier\":\"unlimited\"\x7d"⟩]

/-- The statistics are interrupted by the updates. -/
def sampleSchedule : List Nat := [0, 3, 0, 4, 3, 0, 1, 4, 0, 0, 2]

/-- The requests are being served. -/
def samplePool : Lib.Pool adminSig Empty Response Store :=
  ⟨sampleRequests.map (serve .reference ⟨"s3cr3t"⟩), ⟨Db.sampleDb, 0⟩⟩

/-- Every statement is executed. -/
def sampleEnv : Env := ⟨fun _ => true, fun n => n, fun _ => []⟩

/-- What a request that has been served was answered. -/
def answer : Serving → Option Response
  | .ret res => some res
  | .fail _ => none
  | .op _ _ => none

theorem answer_eq_some {p : Serving} {res : Response} (h : answer p = some res) :
    p = .ret res := by
  cases p with
  | ret res' => exact congrArg _ (Option.some.inj h)
  | fail e => cases e
  | op o k => cases h

/-- What they are answered, the limit of the listing being the old one. -/
def sampleAnswers : List (Option Response) :=
  [some ⟨.ok, .stats ⟨2, 2, 2, 1, 0⟩⟩,
    some ⟨.ok, .users [⟨1, 7, "bot", none, "premium", 5, "UTC", 1⟩,
      ⟨2, 8, "bot", none, "free", 5, "UTC", 1⟩]⟩,
    some ⟨.ok, .feedback []⟩, some ⟨.ok, .tier 7 "premium"⟩, some ⟨.ok, .limit 7 50⟩,
    some ⟨.unauthorized, .empty⟩]

/-- **The sample is a run.** -/
theorem sample_run : ∃ es P, Lib.Steps (Lib.Pool.Step (perform .reference sampleEnv)) samplePool
    es P ∧ es.length = 11 ∧ P.threads.map answer = sampleAnswers := by
  have hrun : (Lib.Pool.schedule (perform .reference sampleEnv) sampleSchedule samplePool).map
      (fun r => (r.1.length, r.2.threads.map answer)) = some (11, sampleAnswers) := by
    decide +kernel
  obtain ⟨r, hr, hanswers⟩ := Option.map_eq_some_iff.mp hrun
  obtain ⟨hlen, hanswers⟩ := Prod.mk.inj hanswers
  exact ⟨r.1, r.2, Lib.Pool.schedule_steps hr, hlen, hanswers⟩

end Admin
end PolyNotifier
