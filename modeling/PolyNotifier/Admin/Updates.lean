import PolyNotifier.Admin.Auth

/-!
# What requests served together write

The requests of any number of clients are served at the same time, and each call of each of them
is a step. `Asks` says which calls a request can make, by what is in the request; `write` says
what an executed call does to one row. So the users after a run are the users before it, each
with the last tier and the last limit that was executed for its Telegram id, and every such call
was asked for by a request that was let in.
-/

namespace PolyNotifier
namespace Admin

open Lib (Prog Pool Event Call Steps)

/-! ## What a request can ask for -/

/-- The statement is one the request asks for. -/
def Asks (x : AdminCrates) (state : AdminState) (req : Request) : AdminOp → Prop
  | .sql (.updateTier tier _ telegramId) =>
      Authorized state req ∧ req.method = .put ∧
        ∃ id body, req.path = ["admin", "users", id, "tier"] ∧ x.pathI64 id = .ok telegramId ∧
          x.jsonTier req = .ok body ∧ tier = x.toLowercase body ∧ tier ∈ tiers
  | .sql (.updateMaxSubscriptions n _ telegramId) =>
      Authorized state req ∧ req.method = .put ∧
        ∃ id body, req.path = ["admin", "users", id, "limit"] ∧ x.pathI64 id = .ok telegramId ∧
          x.jsonMaxSubscriptions req = .ok body ∧ n = body.1 ∧ 0 ≤ n
  | _ => Authorized state req

/-! ## Routes -/

theorem captures_nil {path cs : List String} : captures [] path = some cs ↔ path = [] ∧ cs = [] := by
  cases path with
  | nil => simp [captures, eq_comm]
  | cons s path => simp [captures]

theorem captures_literal {l : String} {ss : List Segment} {path cs : List String} :
    captures (.literal l :: ss) path = some cs ↔
      ∃ rest, path = l :: rest ∧ captures ss rest = some cs := by
  cases path with
  | nil => simp [captures]
  | cons s path =>
    rw [captures]
    by_cases hs : l = s
    · simp [hs]
    · simp [hs, Ne.symm hs]

theorem captures_telegramId {ss : List Segment} {path cs : List String} :
    captures (.telegramId :: ss) path = some cs ↔
      ∃ id rest cs', path = id :: rest ∧ captures ss rest = some cs' ∧ cs = id :: cs' := by
  cases path with
  | nil => simp [captures]
  | cons s path => simp [captures, eq_comm]

/-- The path of an update, and what it captures. -/
theorem captures_update {last : String} {path cs : List String}
    (h : captures [.literal "admin", .literal "users", .telegramId, .literal last] path =
      some cs) : ∃ id, path = ["admin", "users", id, last] ∧ cs = [id] := by
  obtain ⟨_, rfl, h₁⟩ := captures_literal.mp h
  obtain ⟨_, rfl, h₂⟩ := captures_literal.mp h₁
  obtain ⟨id, _, _, rfl, h₃, rfl⟩ := captures_telegramId.mp h₂
  obtain ⟨_, rfl, h₄⟩ := captures_literal.mp h₃
  obtain ⟨rfl, rfl⟩ := captures_nil.mp h₄
  exact ⟨id, rfl, rfl⟩

theorem captures_of_findRoute {path cs : List String} {e : Endpoint}
    (h : findRoute path = some (e, cs)) : captures e.path path = some cs := by
  obtain ⟨e', _, he⟩ := List.exists_of_findSome?_eq_some h
  obtain ⟨cs', hcs, heq⟩ := Option.map_eq_some_iff.mp he
  cases heq
  exact hcs

/-- What a request can come to: an answer without a call, or one of the handlers for a request that
    was let in. It is the router turned around, and what is shown of all requests is shown of its
    cases. -/
inductive Served (x : AdminCrates) (state : AdminState) (req : Request) : Serving → Prop
  | status {status : StatusCode}
      (known : status = .unauthorized ∨ status = .notFound ∨ status = .methodNotAllowed) :
      Served x state req (.ret ⟨status, .empty⟩)
  | rejection (r : Rejection) : Served x state req (.ret r.intoResponse)
  | updateTier {id body : String} {telegramId : Int} (auth : Authorized state req)
      (method : req.method = .put) (path : req.path = ["admin", "users", id, "tier"])
      (hid : x.pathI64 id = .ok telegramId) (hbody : x.jsonTier req = .ok body) :
      Served x state req (updateTier x telegramId body)
  | updateLimit {id : String} {telegramId : Int} {n : { n : Int // InI32 n }}
      (auth : Authorized state req) (method : req.method = .put)
      (path : req.path = ["admin", "users", id, "limit"]) (hid : x.pathI64 id = .ok telegramId)
      (hbody : x.jsonMaxSubscriptions req = .ok n) :
      Served x state req (updateLimit telegramId n)
  | listUsers (auth : Authorized state req) : Served x state req listUsers
  | listFeedback (auth : Authorized state req) : Served x state req listFeedback
  | getStats (auth : Authorized state req) : Served x state req getStats
  /-- A `HEAD` request. -/
  | head {p : Serving} (served : Served x state req p) :
      Served x state req (p >>= fun res => pure { res with body := .empty })

/-- **Every request comes to one of these.** -/
theorem served_serve (x : AdminCrates) (state : AdminState) (req : Request) :
    Served x state req (serve x state req) := by
  rw [serve_eq]
  split
  · rename_i hauth
    unfold dispatch
    -- unauthorized, no route, a route with its method, GET answered for HEAD, or the wrong method
    cases hroute : findRoute req.path with
    | none => exact .status (.inr (.inl rfl))
    | some r =>
      obtain ⟨e, cs⟩ := r
      have hpath := captures_of_findRoute hroute
      dsimp only
      split
      · rename_i hmethod
        cases e with
        | updateTier =>
          obtain ⟨id, hreq, rfl⟩ := captures_update hpath
          show Served x state req (Endpoint.handler x req id .updateTier)
          simp only [Endpoint.handler]
          split
          · exact .rejection _
          · exact .rejection _
          · rename_i hid hbody
            exact .updateTier hauth hmethod hreq hid hbody
        | updateLimit =>
          obtain ⟨id, hreq, rfl⟩ := captures_update hpath
          show Served x state req (Endpoint.handler x req id .updateLimit)
          simp only [Endpoint.handler]
          split
          · exact .rejection _
          · exact .rejection _
          · rename_i hid hbody
            exact .updateLimit hauth hmethod hreq hid hbody
        | listUsers => exact .listUsers hauth
        | listFeedback => exact .listFeedback hauth
        | getStats => exact .getStats hauth
      · split
        · rename_i hget
          cases e with
          | updateTier => cases hget.2
          | updateLimit => cases hget.2
          | listUsers => exact .head (.listUsers hauth)
          | listFeedback => exact .head (.listFeedback hauth)
          | getStats => exact .head (.getStats hauth)
        · exact .status (.inr (.inr rfl))
  · exact .status (.inl rfl)

/-! ## What an answer says of the calls -/

/-- An answer of success to an update, one that the user is missing, and one that the database
    failed have each a call behind them. A 404 has two causes, a path and a user that are not
    there, and only the second has a body. -/
structure Backed (calls : List (Call adminSig)) (res : Response) : Prop where
  tier : ∀ telegramId tier, res.body = .tier telegramId tier → res.status = .ok ∧
    ∃ now n, ⟨.sql (.updateTier tier now telegramId), .ok (n + 1)⟩ ∈ calls
  limit : ∀ telegramId n, res.body = .limit telegramId n → res.status = .ok ∧
    ∃ now k, ⟨.sql (.updateMaxSubscriptions n now telegramId), .ok (k + 1)⟩ ∈ calls
  missing : res.status = .notFound → res.body = .empty ∨ ∃ telegramId,
    (∃ tier now, ⟨.sql (.updateTier tier now telegramId), .ok 0⟩ ∈ calls) ∨
      ∃ n now, ⟨.sql (.updateMaxSubscriptions n now telegramId), .ok 0⟩ ∈ calls
  failed : res.status = .internalServerError → ∃ s e, ⟨.sql s, .error e⟩ ∈ calls

/-- An answer that is no update's and no failure. -/
theorem backed_plain {calls : List (Call adminSig)} {res : Response}
    (htier : ∀ telegramId tier, res.body ≠ .tier telegramId tier)
    (hlimit : ∀ telegramId n, res.body ≠ .limit telegramId n)
    (hmissing : res.status = .notFound → res.body = .empty)
    (hfailed : res.status ≠ .internalServerError) : Backed calls res :=
  ⟨fun telegramId tier h => absurd h (htier telegramId tier),
    fun telegramId n h => absurd h (hlimit telegramId n), fun h => .inl (hmissing h),
    fun h => absurd h hfailed⟩

theorem backed_empty {calls : List (Call adminSig)} {status : StatusCode}
    (h : status ≠ .internalServerError) : Backed calls ⟨status, .empty⟩ :=
  backed_plain (by simp) (by simp) (fun _ => rfl) h

theorem backed_rejection {calls : List (Call adminSig)} (r : Rejection) :
    Backed calls r.intoResponse := by
  have hstatus : r.status ≠ 404 ∧ r.status ≠ 500 := by
    rcases r.known with h | h | h | h <;> simp [h]
  exact backed_plain (by simp [Rejection.intoResponse]) (by simp [Rejection.intoResponse])
    (fun h => absurd h hstatus.1) hstatus.2

theorem backed_dbError {calls : List (Call adminSig)} {s : Statement} {e : DbError}
    (h : ⟨.sql s, .error e⟩ ∈ calls) : Backed calls dbError :=
  ⟨by simp [dbError], by simp [dbError], by simp [dbError, StatusCode.notFound,
    StatusCode.internalServerError], fun _ => ⟨s, e, h⟩⟩

/-- The answer to an update, by the rows it affected. -/
theorem backed_updated {calls : List (Call adminSig)} {telegramId : Int} {value : Body}
    {r : Except DbError Nat}
    (herror : ∀ e, r = .error e → ∃ s e, ⟨.sql s, .error e⟩ ∈ calls)
    (hzero : r = .ok 0 → (∃ tier now, ⟨.sql (.updateTier tier now telegramId), .ok 0⟩ ∈ calls) ∨
      ∃ n now, ⟨.sql (.updateMaxSubscriptions n now telegramId), .ok 0⟩ ∈ calls)
    (hsucc : ∀ n, r = .ok (n + 1) → Backed calls ⟨.ok, value⟩) :
    Backed calls (updated telegramId value r) := by
  cases r with
  | error e =>
    obtain ⟨s, e', h⟩ := herror e rfl
    exact backed_dbError h
  | ok n =>
    cases n with
    | zero =>
      exact ⟨by simp [updated], by simp [updated], fun _ => .inr ⟨telegramId, hzero rfl⟩,
        by simp [updated, StatusCode.notFound, StatusCode.internalServerError]⟩
    | succ n => exact hsucc n rfl

/-! ## The handlers -/

variable {x : AdminCrates} {state : AdminState} {req : Request} {ok : Call adminSig → Prop}

/-- A request serves: it makes calls it asks for, and its answer has its calls behind it. -/
def ServesRequest (x : AdminCrates) (state : AdminState) (req : Request)
    (ok : Call adminSig → Prop) (p : Serving) : Prop :=
  Prog.Serves ok (Asks x state req) (fun calls r => ∀ res, r = .ok res → Backed calls res) [] p

theorem serves_answer {res : Response} (h : Backed [] res) :
    ServesRequest x state req ok (.ret res) := by
  intro res' hres
  cases hres
  exact h

theorem serves_updateTier {telegramId : Int} {body : String} (hauth : Authorized state req)
    (hasks : x.toLowercase body ∈ tiers →
      ∀ now, Asks x state req (.sql (.updateTier (x.toLowercase body) now telegramId))) :
    ServesRequest x state req ok (updateTier x telegramId body) := by
  unfold updateTier
  dsimp only
  split
  · rename_i htier
    refine ⟨hauth, fun now _ => ⟨hasks (by simpa [tiers] using htier) now, fun r _ => ?_⟩⟩
    intro res hres
    cases hres
    have hmem : (⟨.sql (.updateTier (x.toLowercase body) now telegramId), r⟩ : Call adminSig) ∈
        [⟨.now, now⟩] ++ [⟨.sql (.updateTier (x.toLowercase body) now telegramId), r⟩] := by simp
    refine backed_updated (fun e he => ⟨.updateTier _ now telegramId, e, by rw [← he]; exact hmem⟩)
      (fun h => .inl ⟨_, now, by rw [← h]; exact hmem⟩) fun n hn => ⟨fun t tier h => ?_, by simp,
        by simp [StatusCode.notFound, StatusCode.ok],
        by simp [StatusCode.ok, StatusCode.internalServerError]⟩
    cases h
    exact ⟨rfl, now, n, hn ▸ hmem⟩
  · exact serves_answer (backed_plain (by simp) (by simp)
      (by simp [StatusCode.notFound, StatusCode.unprocessableEntity])
      (by simp [StatusCode.internalServerError, StatusCode.unprocessableEntity]))

theorem serves_updateLimit {telegramId n : Int} (hauth : Authorized state req)
    (hasks : 0 ≤ n →
      ∀ now, Asks x state req (.sql (.updateMaxSubscriptions n now telegramId))) :
    ServesRequest x state req ok (updateLimit telegramId n) := by
  unfold updateLimit
  split
  · exact serves_answer (backed_plain (by simp) (by simp)
      (by simp [StatusCode.notFound, StatusCode.unprocessableEntity])
      (by simp [StatusCode.internalServerError, StatusCode.unprocessableEntity]))
  · rename_i hn
    refine ⟨hauth, fun now _ => ⟨hasks (Int.not_lt.mp hn) now, fun r _ => ?_⟩⟩
    intro res hres
    cases hres
    have hmem : (⟨.sql (.updateMaxSubscriptions n now telegramId), r⟩ : Call adminSig) ∈
        [⟨.now, now⟩] ++ [⟨.sql (.updateMaxSubscriptions n now telegramId), r⟩] := by simp
    refine backed_updated
      (fun e he => ⟨.updateMaxSubscriptions n now telegramId, e, by rw [← he]; exact hmem⟩)
      (fun h => .inr ⟨_, now, by rw [← h]; exact hmem⟩) fun k hk => ⟨by simp, fun t m h => ?_,
        by simp [StatusCode.notFound, StatusCode.ok],
        by simp [StatusCode.ok, StatusCode.internalServerError]⟩
    cases h
    exact ⟨rfl, now, k, hk ▸ hmem⟩

theorem serves_listUsers (hauth : Authorized state req) :
    ServesRequest x state req ok listUsers := by
  refine ⟨hauth, fun r _ => ?_⟩
  cases r with
  | error e =>
    intro res hres
    cases hres
    exact backed_dbError (List.mem_append_right _ (List.mem_singleton_self _))
  | ok entries =>
    intro res hres
    cases hres
    exact backed_plain (by simp) (by simp) (by simp [StatusCode.ok, StatusCode.notFound])
      (by simp [StatusCode.ok, StatusCode.internalServerError])

theorem serves_listFeedback (hauth : Authorized state req) :
    ServesRequest x state req ok listFeedback := by
  refine ⟨hauth, fun r _ => ?_⟩
  cases r with
  | error e =>
    intro res hres
    cases hres
    exact backed_dbError (List.mem_append_right _ (List.mem_singleton_self _))
  | ok entries =>
    intro res hres
    cases hres
    exact backed_plain (by simp) (by simp) (by simp [StatusCode.ok, StatusCode.notFound])
      (by simp [StatusCode.ok, StatusCode.internalServerError])

/-- One of the queries of `fetch_stats`: the rest goes on, or the database has failed. -/
theorem serves_fetch {calls : List (Call adminSig)} {s : Statement} {α : Type}
    {f : s.Res → Prog adminSig DbError α} {Q : List (Call adminSig) → Except DbError α → Prop}
    (hasks : Asks x state req (.sql s))
    (herror : ∀ e, Q (calls ++ [⟨.sql s, .error e⟩]) (.error e))
    (hrest : ∀ a, Prog.Serves ok (Asks x state req) Q (calls ++ [⟨.sql s, .ok a⟩]) (f a)) :
    Prog.Serves ok (Asks x state req) Q calls (fetch s >>= f) := by
  refine ⟨hasks, fun r _ => ?_⟩
  cases r with
  | error e => exact herror e
  | ok a => exact hrest a

theorem serves_getStats (hauth : Authorized state req) :
    ServesRequest x state req ok getStats := by
  unfold ServesRequest getStats
  rw [Prog.serves_bind, Prog.serves_attempt]
  have hfailed : ∀ (calls : List (Call adminSig)) s e,
      Prog.Serves ok (Asks x state req)
        (fun calls r => ∀ res, r = .ok res → Backed calls res) (calls ++ [⟨.sql s, .error e⟩])
        (pure dbError : Serving) := by
    intro calls s e res hres
    cases hres
    exact backed_dbError (List.mem_append_right _ (List.mem_singleton_self _))
  unfold fetchStats
  refine serves_fetch hauth (hfailed _ _) fun users => ?_
  refine serves_fetch hauth (hfailed _ _) fun subscriptions => ?_
  refine serves_fetch hauth (hfailed _ _) fun alerts => ?_
  refine serves_fetch hauth (hfailed _ _) fun markets => ?_
  refine serves_fetch hauth (hfailed _ _) fun notifications => ?_
  intro res hres
  cases hres
  exact backed_plain (by simp) (by simp) (by simp [StatusCode.ok, StatusCode.notFound])
    (by simp [StatusCode.ok, StatusCode.internalServerError])

/-- **Every request serves.** -/
theorem Served.serves {p : Serving} (h : Served x state req p) :
    ServesRequest x state req ok p := by
  induction h with
  | status h =>
    refine serves_answer (backed_empty ?_)
    rcases h with rfl | rfl | rfl <;> simp [StatusCode.unauthorized, StatusCode.notFound,
      StatusCode.methodNotAllowed, StatusCode.internalServerError]
  | rejection r => exact serves_answer (backed_rejection r)
  | @updateTier id body telegramId hauth hmethod hpath hid hbody =>
    exact serves_updateTier hauth fun htier now =>
      ⟨hauth, hmethod, id, body, hpath, hid, hbody, rfl, htier⟩
  | @updateLimit id telegramId n hauth hmethod hpath hid hbody =>
    exact serves_updateLimit hauth fun hn now =>
      ⟨hauth, hmethod, id, n, hpath, hid, hbody, rfl, hn⟩
  | listUsers hauth => exact serves_listUsers hauth
  | listFeedback hauth => exact serves_listFeedback hauth
  | getStats hauth => exact serves_getStats hauth
  | head _ ih =>
    unfold ServesRequest
    rw [Prog.serves_bind]
    refine Prog.Serves.imp ih (fun _ h => h) fun calls r hr => ?_
    cases r with
    | ok res =>
      -- a body that is left out says less
      intro res' hres
      cases hres
      exact ⟨by simp, by simp, fun _ => .inl rfl, (hr res rfl).failed⟩
    | error e => cases e

/-! ## What is written -/

/-- A row after a call. -/
def write (u : User) : Event adminSig → User
  | ⟨_, .sql (.updateTier tier now telegramId), .ok _⟩ =>
      if u.telegramId == telegramId then { u with tier := tier, updatedAt := now } else u
  | ⟨_, .sql (.updateMaxSubscriptions n now telegramId), .ok _⟩ =>
      if u.telegramId == telegramId then
        { u with maxSubscriptions := n, updatedAt := now }
      else u
  | _ => u

/-- **One call writes to the rows of one Telegram id, or not at all.** -/
theorem perform_write (x : AdminCrates) (env : Env) (i : Nat) (o : AdminOp) (w : Store) :
    Db.OthersKept w.db (perform x env o w).2.db ∧
      (perform x env o w).2.db.users.seq = w.db.users.seq ∧
      (perform x env o w).2.db.users.rows = w.db.users.rows.map fun u =>
        write u ⟨i, o, (perform x env o w).1⟩ := by
  have hsame : ∀ f : User → User, (∀ u, f u = u) → w.db.users.rows = w.db.users.rows.map f := by
    intro f hf
    rw [funext hf, List.map_id']
  cases o with
  | now => exact ⟨.refl _, rfl, hsame _ fun _ => rfl⟩
  | sql s =>
    -- a statement that the database fails writes nothing, and its label says so
    by_cases hdb : env.database w.calls = true
    · cases s with
      | updateTier tier now telegramId =>
        simp only [perform, hdb, if_true, Statement.exec]
        cases hexec : w.db.updateTier tier now telegramId with
        | error e => exact ⟨.refl _, rfl, hsame _ fun _ => rfl⟩
        | ok r =>
          obtain ⟨hothers, _, hseq, hrows⟩ := Db.updateTier_ok hexec
          exact ⟨hothers, hseq, hrows⟩
      | updateMaxSubscriptions n now telegramId =>
        simp only [perform, hdb, if_true, Statement.exec]
        cases hexec : w.db.updateMaxSubscriptions n now telegramId with
        | error e => exact ⟨.refl _, rfl, hsame _ fun _ => rfl⟩
        | ok r =>
          obtain ⟨hothers, _, hseq, hrows⟩ := Db.updateMaxSubscriptions_ok hexec
          exact ⟨hothers, hseq, hrows⟩
      | listUsers =>
        simp only [perform, hdb, if_true, Statement.exec]
        cases w.db.listUsers with
        | error e => exact ⟨.refl _, rfl, hsame _ fun _ => rfl⟩
        | ok entries => exact ⟨.refl _, rfl, hsame _ fun _ => rfl⟩
      | _ =>
        simp only [perform, hdb, if_true, Statement.exec]
        exact ⟨.refl _, trivial, hsame _ fun _ => rfl⟩
    · simp only [perform, hdb]
      refine ⟨.refl _, rfl, hsame _ fun u => ?_⟩
      cases s <;> rfl

/-- What the calls of a run write for a Telegram id, last first. -/
def lastWritten {β : Type} (f : Event adminSig → Option β) (es : List (Event adminSig)) :
    Option β := es.reverse.findSome? f

def tierWritten (telegramId : Int) : Event adminSig → Option String
  | ⟨_, .sql (.updateTier tier _ id), .ok _⟩ => if telegramId == id then some tier else none
  | _ => none

def limitWritten (telegramId : Int) : Event adminSig → Option Int
  | ⟨_, .sql (.updateMaxSubscriptions n _ id), .ok _⟩ =>
      if telegramId == id then some n else none
  | _ => none

def timeWritten (telegramId : Int) : Event adminSig → Option NaiveDateTime
  | ⟨_, .sql (.updateTier _ now id), .ok _⟩ => if telegramId == id then some now else none
  | ⟨_, .sql (.updateMaxSubscriptions _ now id), .ok _⟩ =>
      if telegramId == id then some now else none
  | _ => none

/-- A row after the calls of a run: the last tier, the last limit and the last time written for its
    Telegram id. The three columns are looked up apart, since an update of the tier and one of the
    limit both write the time and each leaves the other's column. -/
def written (es : List (Event adminSig)) (u : User) : User :=
  { u with
    tier := (lastWritten (tierWritten u.telegramId) es).getD u.tier
    maxSubscriptions := (lastWritten (limitWritten u.telegramId) es).getD u.maxSubscriptions
    updatedAt := (lastWritten (timeWritten u.telegramId) es).getD u.updatedAt }

theorem lastWritten_snoc {β : Type} (f : Event adminSig → Option β) (es : List (Event adminSig))
    (ev : Event adminSig) : lastWritten f (es ++ [ev]) = (f ev).or (lastWritten f es) := by
  unfold lastWritten
  rw [List.reverse_append, List.reverse_singleton, List.singleton_append, List.findSome?_cons]
  cases f ev <;> rfl

theorem written_snoc (es : List (Event adminSig)) (ev : Event adminSig) (u : User) :
    written (es ++ [ev]) u = write (written es u) ev := by
  unfold written
  rw [lastWritten_snoc, lastWritten_snoc, lastWritten_snoc]
  obtain ⟨i, o, r⟩ := ev
  cases o with
  | now => simp [tierWritten, limitWritten, timeWritten, write]
  | sql s =>
    cases r with
    | error e =>
      cases s <;> simp [tierWritten, limitWritten, timeWritten, write]
    | ok a =>
      cases s with
      | updateTier tier now id =>
        by_cases hid : u.telegramId = id <;>
          simp [tierWritten, limitWritten, timeWritten, write, hid]
      | updateMaxSubscriptions n now id =>
        by_cases hid : u.telegramId = id <;>
          simp [tierWritten, limitWritten, timeWritten, write, hid]
      | _ => simp [tierWritten, limitWritten, timeWritten, write]

/-- The database after some calls: the users as they are written, and the rest as it was. The rows
    are given as a function of the calls and the rows before, which says at once that none is new,
    none gone and none out of place. -/
structure WrittenFrom (d : Db) (es : List (Event adminSig)) (d' : Db) : Prop where
  others : Db.OthersKept d d'
  seq : d'.users.seq = d.users.seq
  rows : d'.users.rows = d.users.rows.map (written es)

theorem writtenFrom_nil (d : Db) : WrittenFrom d [] d :=
  ⟨.refl d, rfl, (List.map_id' _).symm⟩

theorem WrittenFrom.perform {x : AdminCrates} {env : Env} {d : Db} {es : List (Event adminSig)}
    {w : Store} (h : WrittenFrom d es w.db) (i : Nat) (o : AdminOp) :
    WrittenFrom d (es ++ [⟨i, o, (perform x env o w).1⟩]) (perform x env o w).2.db := by
  obtain ⟨hothers, hseq, hrows⟩ := perform_write x env i o w
  refine ⟨h.others.trans hothers, hseq.trans h.seq, ?_⟩
  rw [hrows, h.rows, List.map_map]
  exact List.map_congr_left fun u _ => (written_snoc es _ u).symm

theorem WrittenFrom.rows_of {d d' : Db} {es : List (Event adminSig)} (h : WrittenFrom d es d')
    (telegramId : Int) :
    (d'.users.rows.filter fun u => u.telegramId == telegramId).length =
      (d.users.rows.filter fun u => u.telegramId == telegramId).length := by
  have hcomp : (fun u : User => u.telegramId == telegramId) ∘ written es =
      fun u => u.telegramId == telegramId := rfl
  rw [h.rows, List.filter_map, List.length_map, hcomp]

/-- An update that was executed has reached every row of its Telegram id: there is one for each bot
    the user has come to, and the API names no bot. -/
def Counted (d : Db) : Call adminSig → Prop
  | ⟨.sql (.updateTier _ _ id), .ok n⟩ =>
      n = (d.users.rows.filter fun u => u.telegramId == id).length
  | ⟨.sql (.updateMaxSubscriptions _ _ id), .ok n⟩ =>
      n = (d.users.rows.filter fun u => u.telegramId == id).length
  | _ => True

theorem WrittenFrom.counted {d : Db} {es : List (Event adminSig)} {w : Store}
    (h : WrittenFrom d es w.db) (env : Env) (o : AdminOp) :
    Counted d ⟨o, (Admin.perform x env o w).1⟩ := by
  cases o with
  | now => trivial
  | sql s =>
    by_cases hdb : env.database w.calls = true
    · cases s with
      | updateTier tier now id =>
        simp only [Admin.perform, hdb, if_true, Statement.exec]
        cases hexec : w.db.updateTier tier now id with
        | error e => trivial
        | ok r => exact (Db.updateTier_ok hexec).2.1.trans (h.rows_of id)
      | updateMaxSubscriptions n now id =>
        simp only [Admin.perform, hdb, if_true, Statement.exec]
        cases hexec : w.db.updateMaxSubscriptions n now id with
        | error e => trivial
        | ok r => exact (Db.updateMaxSubscriptions_ok hexec).2.1.trans (h.rows_of id)
      | _ => trivial
    · simp only [Admin.perform, hdb]
      cases s <;> trivial

/-! ## When a statement fails -/

/-- The stored limits fit the type they are read as. -/
def LimitsFit (d : Db) : Prop := ∀ u ∈ d.users.rows, InI32 u.maxSubscriptions

theorem listUsers_isOk {d : Db} (h : LimitsFit d) : ∃ entries, d.listUsers = .ok entries := by
  unfold Db.listUsers decodeAll
  rw [if_pos]
  · exact ⟨_, rfl⟩
  · rw [List.all_eq_true]
    intro e he
    obtain ⟨u, hu, rfl⟩ := List.mem_map.mp he
    rw [decide_eq_true_eq]
    exact h u ((List.perm_insertionSort _ _).mem_iff.mp hu)

theorem inI32_write {u : User} (h : InI32 u.maxSubscriptions) {ev : Event adminSig}
    (hasks : Asks x state req ev.op) : InI32 (write u ev).maxSubscriptions := by
  obtain ⟨i, o, r⟩ := ev
  cases o with
  | now => exact h
  | sql s =>
    cases r with
    | error e => cases s <;> exact h
    | ok a =>
      cases s with
      | updateTier tier now id =>
        rw [write]
        split <;> exact h
      | updateMaxSubscriptions n now id =>
        obtain ⟨_, _, _, body, _, _, _, rfl, _⟩ := hasks
        rw [write]
        split
        · exact body.2
        · exact h
      | _ => exact h

/-- What a request asks for can be executed. -/
theorem exec_isOk {s : Statement} (hasks : Asks x state req (.sql s)) (clock : NaiveDateTime)
    (order : List Nat) {d : Db} (h : LimitsFit d) : ∃ r, s.exec x clock order d = .ok r := by
  cases s with
  | updateTier tier now id =>
    obtain ⟨_, _, _, _, _, _, _, _, htier⟩ := hasks
    exact Db.updateTier_isOk (List.contains_iff_mem.mpr htier) now id d
  | updateMaxSubscriptions n now id => exact Db.updateMaxSubscriptions_isOk n now id d
  | listUsers =>
    obtain ⟨entries, hentries⟩ := listUsers_isOk h
    refine ⟨(entries, d), ?_⟩
    show d.listUsers.map _ = _
    rw [hentries]
    rfl
  | _ => exact ⟨_, rfl⟩

/-- **A call that a request asks for fails only if the database does not execute it**, and the
    limits fit afterwards. -/
theorem perform_fits {w : Store} {o : AdminOp} (hasks : Asks x state req o) (env : Env)
    (h : LimitsFit w.db) :
    LimitsFit (Admin.perform x env o w).2.db ∧ ∀ s e,
      (⟨o, (Admin.perform x env o w).1⟩ : Call adminSig) = ⟨.sql s, .error e⟩ →
        e = .unavailable := by
  constructor
  · intro u' hu'
    rw [(perform_write x env 0 o w).2.2] at hu'
    obtain ⟨u, hu, rfl⟩ := List.mem_map.mp hu'
    have hev : Asks x state req (Event.op (⟨0, o, (Admin.perform x env o w).1⟩ : Event adminSig)) :=
      hasks
    exact inI32_write (h u hu) hev
  · intro s e hcall
    cases o with
    | now => cases hcall
    | sql s' =>
      by_cases hdb : env.database w.calls = true
      · obtain ⟨r, hr⟩ := exec_isOk hasks (env.clock w.calls)
          (env.order w.calls) h
        simp only [Admin.perform, hdb, if_true, hr] at hcall
        cases hcall
      · simp only [Admin.perform, hdb] at hcall
        cases hcall
        rfl

/-! ## Requests served together -/

variable {env : Env} {reqs : List Request} {w : Store} {es : List (Event adminSig)}
  {P : Pool adminSig Empty Response Store}

theorem getElem?_serves {i : Nat} {p : Serving}
    (h : (reqs.map (serve x state))[i]? = some p) :
    ∃ req, reqs[i]? = some req ∧ Served x state req p := by
  rw [List.getElem?_map, Option.map_eq_some_iff] at h
  obtain ⟨req, hreq, rfl⟩ := h
  exact ⟨req, hreq, served_serve x state req⟩

/-- What a run has done to the database it started from. -/
structure RunFrom (d : Db) (es : List (Event adminSig)) (d' : Db) : Prop where
  written : WrittenFrom d es d'
  counted : ∀ ev ∈ es, Counted d ev.call
  fits : LimitsFit d → LimitsFit d' ∧
    ∀ ev ∈ es, ∀ s e, ev.call = ⟨.sql s, .error e⟩ → e = .unavailable

theorem runFrom_nil (d : Db) : RunFrom d [] d := by
  refine ⟨writtenFrom_nil d, fun ev hev => ?_, fun h => ⟨h, fun ev hev => ?_⟩⟩
  · cases hev
  · cases hev

theorem RunFrom.perform {d : Db} {w : Store} (h : RunFrom d es w.db) (i : Nat) {o : AdminOp}
    (hasks : Asks x state req o) :
    RunFrom d (es ++ [⟨i, o, (Admin.perform x env o w).1⟩]) (Admin.perform x env o w).2.db := by
  refine ⟨h.written.perform i o, fun ev hev => ?_, fun hfit => ?_⟩
  · rcases List.mem_append.mp hev with hev | hev
    · exact h.counted ev hev
    · obtain rfl := List.mem_singleton.mp hev
      exact h.written.counted env o
  · obtain ⟨hfit', honly⟩ := h.fits hfit
    obtain ⟨hnext, hcall⟩ := perform_fits hasks env hfit'
    refine ⟨hnext, fun ev hev => ?_⟩
    rcases List.mem_append.mp hev with hev | hev
    · exact honly ev hev
    · obtain rfl := List.mem_singleton.mp hev
      exact hcall

/-- **However requests are served together**, nothing but users is written; each row ends with
    the last tier and the last limit executed for its Telegram id; every call made was asked for
    by a request that was let in; an update reaches every row of its Telegram id; and every
    answer has its calls behind it. -/
theorem updates_of_run
    (hrun : Steps (Pool.Step (perform x env)) ⟨reqs.map (serve x state), w⟩ es P) :
    RunFrom w.db es P.state.db ∧
    (∀ ev ∈ es, ∃ req, reqs[ev.thread]? = some req ∧ Asks x state req ev.op) ∧
    ∀ (i : Nat) res, P.threads[i]? = some (.ret res) → Backed (Pool.callsOf i es) res := by
  obtain ⟨hstate, hallow, hserves⟩ := Pool.serves_run (C := fun _ => True)
    (A := fun i o => ∃ req, reqs[i]? = some req ∧ Asks x state req o)
    (Q := fun _ calls r => ∀ res, r = .ok res → Backed calls res)
    (I := fun es s => RunFrom w.db es s.db)
    (fun es i o s hs hask => by
      obtain ⟨req, _, hasks⟩ := hask
      exact ⟨trivial, hs.perform i hasks⟩)
    (runFrom_nil w.db)
    (fun i p hi => by
      obtain ⟨req, hreq, hserved⟩ := getElem?_serves hi
      exact Prog.Serves.imp hserved.serves (fun o ho => ⟨req, hreq, ho⟩) fun _ _ h => h)
    hrun
  exact ⟨hstate, hallow, fun i res hi => hserves i _ hi res rfl⟩

/-- The sample. -/
theorem updates_of_run_sample :
    ∃ es P, Steps (Pool.Step (perform .reference sampleEnv)) samplePool es P ∧ es.length = 11 ∧
      RunFrom Db.sampleDb es P.state.db ∧
      (∀ ev ∈ es, ∃ req, sampleRequests[ev.thread]? = some req ∧
        Asks .reference ⟨"s3cr3t"⟩ req ev.op) ∧
      ∀ (i : Nat) res, P.threads[i]? = some (.ret res) → Backed (Pool.callsOf i es) res := by
  obtain ⟨es, P, hrun, hlen, _⟩ := sample_run
  exact ⟨es, P, hrun, hlen, updates_of_run hrun⟩

end Admin
end PolyNotifier
