import ObjectStore.Proofs.Client.Discipline
import ObjectStore.Proofs.Reading

/-!
A client that follows a listing from page to page, whatever the server answers. It asks for another page exactly
when the last answer was a page with a token, with that token for a cursor and everything else as at first, and its
pages are the ones that it was shown.
-/

namespace ObjectStore

open Url (ofPlace)

variable {α β σ : Type}

/-! ### What is asked -/

def Query.criteria (query : Query) : List (String × String) :=
  [("prefix", query.stem), ("delimiter", query.delimiter), ("versions", if query.versions then "true" else ""),
    ("pageToken", query.cursor),
    ("maxResults", if query.maxResults = 0 then "" else query.maxResults.toNat.repr)].filter (·.2 ≠ "")

def HttpRequest.AsksFor (request : HttpRequest) (query : Query) : Prop :=
  request.method = .get ∧ Form.pairs request.url = ("projection", "full") :: query.criteria

theorem BucketConfig.listPairs_eq (query : Query) : listPairs query = ("projection", "full") :: query.criteria := by
  have counted : query.maxResults.toNat.repr ≠ "" := by
    intro same
    have characters := congrArg String.toList same
    rw [Nat.toList_repr] at characters
    exact Nat.toDigits_ne_nil characters
  rw [listPairs, Query.criteria]
  by_cases stem : query.stem = "" <;> by_cases delimiter : query.delimiter = "" <;>
    by_cases cursor : query.cursor = "" <;> by_cases count : query.maxResults = 0 <;>
    cases versions : query.versions <;>
    simp [stem, delimiter, cursor, count, counted]

section Standard

variable (config : BucketConfig)

def BucketConfig.standard : BucketConfig :=
  { config with apiBase := "https://www.googleapis.com/storage/v1/" }

def BucketConfig.listing (query : Query) : HttpRequest :=
  ⟨.get, ofPlace "www.googleapis.com"
    (Url.resolveSegments .special [] (["storage", "v1", "b"] ++ [Percent.expandVariable config.name, "o"]))
    (some (Form.joinPairs (BucketConfig.listPairs query))),
    Headers.empty.insert "user-agent" (Bytes.ofText config.userAgent), .empty⟩

theorem BucketConfig.asksFor_listing (query : Query) : (config.listing query).AsksFor query :=
  ⟨rfl, (Form.pairs_ofPlace ..).trans (listPairs_eq query)⟩

theorem BucketConfig.listRequest_standard (query : Query) : config.standard.listRequest query =
    (Simulation.checkAgent config.userAgent).map fun _ => config.listing query := by
  have base : config.standard.apiBase = "https://" ++ "www.googleapis.com" ++ "/storage/v1/" :=
    Simulation.apiBase_defaultConfig config.projectId config.name config.userAgent
  have address := Url.keepsSegments_unreserved.parse_address config.name Place.areSegments_bucket Simulation.isHost_api
    Url.isQuery_none
  have written := bucketAddress_eq base
  have parsed := Simulation.parseUrl_text address written
  rw [listRequest, listUrl, parsed]
  simp only [bind, Except.bind, pure, Except.pure, BucketConfig.request, Simulation.checkAgent]
  have agent : config.standard.userAgent = config.userAgent := rfl
  rw [agent]
  split <;> rfl

end Standard

/-! ### What is answered -/

def Reply.Shows (reply : Reply) (bucket : String) (listing : ResourceList) (objects : List Object) : Prop :=
  ∃ response bytes, reply = .answer (.ok response) ∧ Status.isSuccess response.status = true ∧
    response.body.collect = .ok bytes ∧ ResourceList.parse bytes = .ok listing ∧
    List.Forall₂ (fun resource object => Object.ofResource bucket resource = .ok object) (listing.items.getD []) objects

def Reply.Continues (reply : Reply) (bucket token : String) : Prop :=
  token ≠ "" ∧ ∃ listing objects, reply.Shows bucket listing objects ∧ listing.nextPageToken = some token

def ResourceList.page (listing : ResourceList) (objects : List Object) (query : Query) : Page :=
  ⟨objects, listing.prefixes.getD [], (listing.nextPageToken.filter (· ≠ "")).map fun cursor => { query with cursor }⟩

def Reply.listed (reply : Reply) (bucket : String) (query : Query) : Ended (Except Error Page) :=
  reply.conclude fun answer => Operation.accepted answer >>= fun response => response.page bucket query

theorem HttpResponse.bytes_eq_ok_iff {response : HttpResponse} {bytes : Bytes} :
    response.bytes = .ok bytes ↔ response.body.collect = .ok bytes := by
  rw [HttpResponse.bytes, collect]
  cases response.body.collect <;> simp [Except.mapError]

theorem Reply.listed_eq_page_iff {reply : Reply} {bucket : String} {query : Query} {page : Page} :
    reply.listed bucket query = .finished (.ok page) ↔
      ∃ listing objects, reply.Shows bucket listing objects ∧ page = listing.page objects query := by
  cases reply with
  | silence | fault => simp [listed, conclude, Shows]
  | answer answer =>
      simp only [listed, conclude, Ended.finished.injEq, bind_eq_ok_iff, HttpResponse.page,
        HttpResponse.bytes_eq_ok_iff, mapError_eq_ok_iff, mapM_eq_ok_iff]
      constructor
      · rintro ⟨response, accepted, bytes, read, listing, parsed, objects, decoded, same⟩
        obtain ⟨rfl, succeeded⟩ := success_of_accepted accepted
        cases same
        exact ⟨listing, objects, ⟨response, bytes, rfl, succeeded, read, parsed, decoded⟩, rfl⟩
      · rintro ⟨listing, objects, ⟨response, bytes, same, succeeded, read, parsed, decoded⟩, rfl⟩
        cases same
        exact ⟨response, Operation.accepted_of_success succeeded, bytes, read, listing, parsed, objects, decoded, rfl⟩

/-! ### Courses -/

theorem Exchange.Yields.of_map {exchange : Exchange α} {change : α → β} {log : Log} {ended : Ended β}
    (yields : (exchange.map change).Yields log ended) :
    ∃ before, exchange.Yields log before ∧ ended = before.map change := by
  induction exchange generalizing log ended with
  | done result =>
      obtain ⟨rfl, rfl⟩ := yields.of_done
      exact ⟨_, .done result, rfl⟩
  | send request next ih =>
      cases yields with
      | silent => exact ⟨_, .silent, rfl⟩
      | broken message => exact ⟨_, .broken message, rfl⟩
      | answered answer rest =>
          obtain ⟨before, yields, same⟩ := ih answer rest
          exact ⟨before, .answered answer yields, same⟩

namespace BucketConfig

def lastPage : Except Error Page → List Page × Option Error
  | .ok page => ([page], none)
  | .error error => ([], some error)

/-- The logs of a client that follows a listing, so many pages at most, and how it ends over each. -/
inductive Traversal (config : BucketConfig) : Nat → Query → Log → Ended (List Page × Option Error) → Prop
  | enough (query : Query) : Traversal config 0 query [] (.finished ([], none))
  | last {count : Nat} {query : Query} (reply : Reply)
      (stops : ∀ page, reply.listed config.name query = .finished (.ok page) → page.next = none) :
      Traversal config (count + 1) query [(config.listing query, reply)]
        ((reply.listed config.name query).map lastPage)
  | page {count : Nat} {query next : Query} {log : Log} {ended : Ended (List Page × Option Error)} (reply : Reply)
      (page : Page) (shown : reply.listed config.name query = .finished (.ok page)) (goesOn : page.next = some next)
      (rest : Traversal config count next log ended) :
      Traversal config (count + 1) query ((config.listing query, reply) :: log)
        (ended.map fun rest => (page :: rest.1, rest.2))

theorem pages_standard {config : BucketConfig} (agent : Headers.isValidValue (Bytes.ofText config.userAgent) = true)
    (count : Nat) (query : Query) :
    config.standard.pages (count + 1) query = .send (config.listing query) fun answer =>
      match Operation.accepted answer >>= fun response => response.page config.name query with
      | .error error => .done ([], some error)
      | .ok page =>
          match page.next with
          | none => .done ([page], none)
          | some next => (config.standard.pages count next).map fun rest => (page :: rest.1, rest.2) := by
  have valid : config.standard.listRequest query = .ok (config.listing query) := by
    rw [listRequest_standard, Simulation.checkAgent, if_pos agent]
    rfl
  have list : config.standard.list query = .send (config.listing query) fun answer =>
      .done (Operation.accepted answer >>= fun response => response.page config.name query) := by
    rw [BucketConfig.list, valid]
    rfl
  rw [pages, list]
  rfl

theorem pages_of_invalid {config : BucketConfig}
    (agent : Headers.isValidValue (Bytes.ofText config.userAgent) = false) (count : Nat) (query : Query) :
    ∃ failure, config.standard.pages count query = .done ([], failure) := by
  cases count with
  | zero => exact ⟨none, rfl⟩
  | succ count =>
      have invalid : config.standard.listRequest query = .error .userAgent := by
        rw [listRequest_standard, Simulation.checkAgent, if_neg (by simp [agent])]
        rfl
      have list : config.standard.list query = .done (.error (.invalidRequest .userAgent)) := by
        rw [BucketConfig.list, invalid]
        rfl
      rw [pages, list]
      exact ⟨some (.invalidRequest .userAgent), rfl⟩

theorem log_prefix {config : BucketConfig} (agent : Headers.isValidValue (Bytes.ofText config.userAgent) = true)
    (transport : Transport σ) (count more : Nat) (query : Query) (state : σ) (before : Log) :
    ((config.standard.pages count query).run transport.logged (state, before)).2.2 <+:
      ((config.standard.pages (count + more) query).run transport.logged (state, before)).2.2 := by
  induction count generalizing query state before with
  | zero =>
      obtain ⟨log, ran, _⟩ := (config.standard.pages (0 + more) query).run_logged transport state before
      rw [ran]
      exact List.prefix_append before log
  | succ count ih =>
      rw [Nat.succ_add, pages_standard agent, pages_standard agent]
      simp only [Exchange.run]
      rcases transport.logged (config.listing query) (state, before) with ⟨answer | _ | _, after⟩
      · dsimp only
        split
        · exact List.prefix_refl _
        · split
          · exact List.prefix_refl _
          · rename_i page _ next _
            rw [Exchange.run_map, Exchange.run_map]
            exact ih next after.1 after.2
      · exact List.prefix_refl _
      · exact List.prefix_refl _

theorem traversal_of_yields {config : BucketConfig}
    (agent : Headers.isValidValue (Bytes.ofText config.userAgent) = true) {count : Nat} {query : Query} {log : Log}
    {ended : Ended (List Page × Option Error)} (yields : (config.standard.pages count query).Yields log ended) :
    config.Traversal count query log ended := by
  induction count generalizing query log ended with
  | zero =>
      obtain ⟨rfl, rfl⟩ := yields.of_done
      exact .enough query
  | succ count ih =>
      rw [pages_standard agent] at yields
      cases yields with
      | silent => exact .last .silence fun page => nofun
      | broken message => exact .last (.fault message) fun page => nofun
      | @answered _ _ log ended answer rest =>
          have listed : (Reply.answer answer).listed config.name query =
              .finished (Operation.accepted answer >>= fun response => response.page config.name query) := rfl
          dsimp only at rest
          split at rest
          · rename_i error failed
            rw [failed] at listed
            obtain ⟨rfl, rfl⟩ := rest.of_done
            have last : config.Traversal (count + 1) query _ _ :=
              .last (.answer answer) (by simp [listed])
            rwa [listed] at last
          · rename_i page shown
            rw [shown] at listed
            split at rest
            · rename_i ends
              obtain ⟨rfl, rfl⟩ := rest.of_done
              have last : config.Traversal (count + 1) query _ _ :=
                .last (.answer answer) (by simp [listed, ends])
              rwa [listed] at last
            · rename_i next goesOn
              obtain ⟨before, others, rfl⟩ := rest.of_map
              exact .page (.answer answer) page listed goesOn (ih others)

end BucketConfig

/-! ### What a traversal is -/

/-- What a client asks that follows a listing of a bucket, so many pages at most, and which pages it gets. -/
structure Traverses (bucket : String) (query : Query) (count : Nat) (log : Log)
    (ended : Ended (List Page × Option Error)) : Prop where
  atMost : log.length ≤ count
  first : ∀ entry, log[0]? = some entry → entry.1.AsksFor query
  next : ∀ index previous entry, log[index]? = some previous → log[index + 1]? = some entry →
    ∃ token, previous.2.Continues bucket token ∧ entry.1.AsksFor { query with cursor := token }
  goesOn : ∀ index entry, log[index]? = some entry → index + 1 < count →
    (index + 1 < log.length ↔ ∃ token, entry.2.Continues bucket token)
  pages : ∀ pages error, ended = .finished (pages, error) → ∀ (index : Nat) (page : Page), pages[index]? = some page ↔
    ∃ (entry : HttpRequest × Reply) (listing : ResourceList) (objects : List Object), log[index]? = some entry ∧
      entry.2.Shows bucket listing objects ∧ page = listing.page objects query
  answered : (∀ entry ∈ log, ∃ answer, entry.2 = .answer answer) → ∃ result, ended = .finished result

namespace BucketConfig.Traversal

variable {config : BucketConfig} {query : Query} {count : Nat} {log : Log} {ended : Ended (List Page × Option Error)}

theorem length_pos (traversal : config.Traversal count query log ended) : 0 < log.length ↔ 0 < count := by
  cases traversal <;> simp

end BucketConfig.Traversal

theorem ResourceList.next_page (listing : ResourceList) (objects : List Object) (query next : Query) :
    (listing.page objects query).next = some next ↔
      ∃ token, listing.nextPageToken = some token ∧ token ≠ "" ∧ next = { query with cursor := token } := by
  simp only [page, Option.map_eq_some_iff, Option.filter_eq_some_iff, decide_eq_true_eq]
  constructor
  · rintro ⟨token, ⟨isToken, notEmpty⟩, rfl⟩
    exact ⟨token, isToken, notEmpty, rfl⟩
  · rintro ⟨token, isToken, notEmpty, rfl⟩
    exact ⟨token, ⟨isToken, notEmpty⟩, rfl⟩

theorem Reply.continues_iff {reply : Reply} {bucket token : String} (query : Query) :
    reply.Continues bucket token ↔
      ∃ page, reply.listed bucket query = .finished (.ok page) ∧ page.next = some { query with cursor := token } := by
  constructor
  · rintro ⟨notEmpty, listing, objects, shows, isToken⟩
    exact ⟨_, listed_eq_page_iff.2 ⟨listing, objects, shows, rfl⟩,
      (listing.next_page objects query _).2 ⟨token, isToken, notEmpty, rfl⟩⟩
  · rintro ⟨page, listed, next⟩
    obtain ⟨listing, objects, shows, rfl⟩ := listed_eq_page_iff.1 listed
    obtain ⟨other, isToken, notEmpty, same⟩ := (listing.next_page objects query _).1 next
    cases same
    exact ⟨notEmpty, listing, objects, shows, isToken⟩

namespace Traverses

variable {bucket : String} {query : Query} {count : Nat}

theorem unsent (bucket : String) (query : Query) (count : Nat) (failure : Option Error) :
    Traverses bucket query count [] (.finished ([], failure)) := by
  constructor
  case atMost => exact Nat.zero_le count
  case first => exact fun entry => nofun
  case next => exact fun index previous entry => nofun
  case goesOn => exact fun index entry => nofun
  case pages =>
    rintro pages error same index page
    cases same
    simp
  case answered => exact fun _ => ⟨_, rfl⟩

theorem last {request : HttpRequest} (asks : request.AsksFor query) {reply : Reply}
    (stops : ∀ page, reply.listed bucket query = .finished (.ok page) → page.next = none) :
    Traverses bucket query (count + 1) [(request, reply)] ((reply.listed bucket query).map BucketConfig.lastPage) := by
  constructor
  case atMost => simp
  case first =>
    rintro entry ⟨⟩
    exact asks
  case next =>
    intro index previous entry _ behind
    simp at behind
  case goesOn =>
    intro index entry found _
    cases index with
    | succ index => simp at found
    | zero =>
        cases found
        simp only [List.length_singleton, Nat.zero_add, Nat.lt_irrefl, false_iff, not_exists]
        intro token continues
        obtain ⟨page, listed, next⟩ := (Reply.continues_iff query).1 continues
        rw [stops page listed] at next
        cases next
  case pages =>
    intro pages error same index page
    cases index with
    | succ index =>
        have single : pages.length ≤ 1 := by
          cases listed : reply.listed bucket query with
          | pending | broken => simp [listed, Ended.map] at same
          | finished result =>
              rw [listed] at same
              cases result <;> cases same <;> simp
        simp [List.getElem?_eq_none (show pages.length ≤ index + 1 by omega)]
    | zero =>
        rw [List.getElem?_cons_zero]
        simp only [Option.some.injEq, exists_and_left, exists_eq_left', ← Reply.listed_eq_page_iff]
        cases listed : reply.listed bucket query with
        | pending | broken => simp [listed, Ended.map] at same
        | finished result =>
            rw [listed] at same
            cases result <;> cases same <;> simp
  case answered =>
    intro answered
    obtain ⟨answer, rfl⟩ := answered (request, reply) (List.mem_singleton.2 rfl)
    exact ⟨_, rfl⟩

theorem cons {request : HttpRequest} (asks : request.AsksFor query) {reply : Reply} {page : Page}
    (shown : reply.listed bucket query = .finished (.ok page)) {token : String}
    (goesOn : page.next = some { query with cursor := token }) {log : Log} {ended : Ended (List Page × Option Error)}
    (sent : 0 < log.length ↔ 0 < count) (rest : Traverses bucket { query with cursor := token } count log ended) :
    Traverses bucket query (count + 1) ((request, reply) :: log)
      (ended.map fun rest => (page :: rest.1, rest.2)) := by
  have continues : reply.Continues bucket token := (Reply.continues_iff query).2 ⟨page, shown, goesOn⟩
  constructor
  case atMost => exact Nat.succ_le_succ rest.atMost
  case first =>
    rintro entry ⟨⟩
    exact asks
  case next =>
    intro index previous entry found behind
    cases index with
    | zero =>
        cases found
        exact ⟨token, continues, rest.first entry behind⟩
    | succ index => exact rest.next index previous entry found behind
  case goesOn =>
    intro index entry found below
    cases index with
    | zero =>
        cases found
        have more : 0 < log.length := sent.2 (by omega)
        simp only [List.length_cons]
        exact ⟨fun _ => ⟨token, continues⟩, fun _ => by omega⟩
    | succ index =>
        rw [List.length_cons, Nat.add_lt_add_iff_right]
        exact rest.goesOn index entry found (by omega)
  case pages =>
    intro pages error same index other
    cases ended with
    | pending | broken => cases same
    | finished result =>
        obtain ⟨later, failure⟩ := result
        cases same
        cases index with
        | zero =>
            simp only [List.getElem?_cons_zero, Option.some.injEq, exists_and_left, exists_eq_left',
              ← Reply.listed_eq_page_iff, shown, Ended.finished.injEq, Except.ok.injEq]
        | succ index => exact rest.pages later failure rfl index other
  case answered =>
    intro answered
    obtain ⟨_, others⟩ := List.forall_mem_cons.1 answered
    obtain ⟨result, rfl⟩ := rest.answered others
    exact ⟨_, rfl⟩

end Traverses

theorem BucketConfig.Traversal.traverses {config : BucketConfig} {query : Query} {count : Nat} {log : Log}
    {ended : Ended (List Page × Option Error)} (traversal : config.Traversal count query log ended) :
    Traverses config.name query count log ended := by
  induction traversal with
  | enough query => exact .unsent config.name query 0 none
  | @last count query reply stops => exact .last (config.asksFor_listing query) stops
  | @page count query next log ended reply page shown goesOn rest ih =>
      obtain ⟨listing, objects, _, same⟩ := Reply.listed_eq_page_iff.1 shown
      rw [same] at goesOn
      obtain ⟨token, _, _, rfl⟩ := (listing.next_page objects query next).1 goesOn
      rw [← same] at goesOn
      exact .cons (config.asksFor_listing query) shown goesOn rest.length_pos ih

/-- Whatever the server is, a client that follows a listing sends another request exactly when the answer before it
was a page that named a token, and asks in each for what the query asked for, from that token on. Its pages are the
ones that were answered, in their order. It sends nothing at all if its own name is no header value. -/
theorem listing_follows_tokens (config : BucketConfig) (transport : Transport σ) (state : σ) (query : Query)
    (count : Nat) :
    let log (count : Nat) : Log := ((config.standard.pages count query).run transport.logged (state, [])).2.2
    (log count ≠ [] ↔ 0 < count ∧ Headers.isValidValue (Bytes.ofText config.userAgent) = true) ∧
      (∀ more, log count <+: log (count + more)) ∧
      Traverses config.name query count (log count) ((config.standard.pages count query).run transport state).1 := by
  intro log
  obtain ⟨sent, ran, yields⟩ := (config.standard.pages count query).run_logged transport state []
  have same : log count = sent := congrArg (fun ended => ended.2.2) ran
  cases agent : Headers.isValidValue (Bytes.ofText config.userAgent) with
  | false =>
      obtain ⟨failure, done⟩ := BucketConfig.pages_of_invalid agent count query
      rw [done] at yields
      obtain ⟨rfl, ended⟩ := yields.of_done
      refine ⟨by simp [same], fun more => ?_, ?_⟩
      · rw [same]
        exact List.nil_prefix
      · rw [same, done]
        exact .unsent config.name query count failure
  | true =>
      have traversal := BucketConfig.traversal_of_yields agent yields
      refine ⟨?_, fun more => BucketConfig.log_prefix agent transport count more query state [], ?_⟩
      · rw [same, ← List.length_pos_iff, traversal.length_pos]
        simp
      · rw [same]
        exact traversal.traverses

end ObjectStore
