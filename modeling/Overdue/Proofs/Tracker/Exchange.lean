import Mathlib.Data.List.Basic
import Overdue.Tracker.Exchange

/-!
# Conversations

A call takes its own request and those that redirections lead to. Of all these only the last can be
answered with success, and then the call is over with that answer (`Converses.accepted`). Only behind
an interim answer can a call be led on (`Conducts.of_isFinal`).
-/

namespace Overdue

/-- The number of creations that were sent once a request is sent after some. -/
def Request.creationsAfter (creations : Nat) (request : Request) : Nat :=
  if request.isCreation then creations + 1 else creations

lemma Request.creationsAfter_eq (creations : Nat) (request : Request) :
    request.creationsAfter creations = creations + [request].countP Request.isCreation := by
  rw [creationsAfter, List.countP_singleton]
  split <;> rfl

namespace Exchange

@[simp] lemma allRequests_nil : allRequests [] = [] := rfl

@[simp] lemma allRequests_append (xs ys : List Exchange) :
    allRequests (xs ++ ys) = allRequests xs ++ allRequests ys :=
  List.flatMap_append

@[simp] lemma countCreations_nil : countCreations [] = 0 := rfl

@[simp] lemma countCreations_append (xs ys : List Exchange) :
    countCreations (xs ++ ys) = countCreations xs + countCreations ys := by
  rw [countCreations, allRequests_append, List.countP_append, countCreations, countCreations]

end Exchange

namespace Server

variable {server : Server}

/-! ## Answers -/

/-- What some requests are answered that are sent after some creations. -/
def responses (server : Server) : Nat → List Request → List (Request × Option Response)
  | _, [] => []
  | creations, request :: requests =>
    (request, (server.answer creations request).received?) ::
      server.responses (request.creationsAfter creations) requests

/-- The request with its response, if that makes it a creation that was answered with success. -/
def accepted? : Request × Option Response → Option (Request × Response)
  | (request, some response) =>
    if request.isCreation && Response.isSuccess response.status then some (request, response)
    else none
  | (_, none) => none

/-- The creations among some requests that are answered with success, each with its answer. -/
def accepted (server : Server) (creations : Nat) (requests : List Request) :
    List (Request × Response) :=
  (server.responses creations requests).filterMap accepted?

lemma accepted?_eq_some {request : Request} {received : Option Response} {a : Request × Response}
    (h : accepted? (request, received) = some a) :
    received = some a.2 ∧ (a.1 = request ∧ request.isCreation) ∧ Response.isSuccess a.2.status := by
  cases received with
  | none => cases h
  | some response =>
    rw [accepted?, Option.ite_none_right_eq_some, Bool.and_eq_true_iff] at h
    obtain ⟨⟨creation, success⟩, same⟩ := h
    cases same
    exact ⟨rfl, ⟨rfl, creation⟩, success⟩

lemma responses_append (creations : Nat) (xs ys : List Request) :
    server.responses creations (xs ++ ys) = server.responses creations xs ++
      server.responses (creations + xs.countP Request.isCreation) ys := by
  induction xs generalizing creations with
  | nil => rfl
  | cons x xs ih =>
    have count : (x :: xs).countP Request.isCreation =
        [x].countP Request.isCreation + xs.countP Request.isCreation := by
      rw [← List.countP_append, List.singleton_append]
    rw [List.cons_append, responses, ih, x.creationsAfter_eq, Nat.add_assoc, ← count, responses,
      x.creationsAfter_eq, List.cons_append]

lemma accepted_append (creations : Nat) (xs ys : List Request) :
    server.accepted creations (xs ++ ys) = server.accepted creations xs ++
      server.accepted (creations + xs.countP Request.isCreation) ys := by
  rw [accepted, responses_append, List.filterMap_append]
  rfl

lemma map_fst_responses (creations : Nat) (requests : List Request) :
    (server.responses creations requests).map Prod.fst = requests := by
  induction requests generalizing creations with
  | nil => rfl
  | cons request requests ih => rw [responses, List.map_cons, ih]

lemma mem_of_mem_accepted {creations : Nat} {requests : List Request} {a : Request × Response}
    (h : a ∈ server.accepted creations requests) : a.1 ∈ requests ∧ a.1.isCreation := by
  obtain ⟨⟨request, received⟩, m, found⟩ := List.mem_filterMap.1 h
  obtain ⟨-, ⟨same, creation⟩, -⟩ := accepted?_eq_some found
  have listed : request ∈ (server.responses creations requests).map Prod.fst :=
    List.mem_map.2 ⟨_, m, rfl⟩
  rw [map_fst_responses] at listed
  rw [same]
  exact ⟨listed, creation⟩

lemma accepted_eq_nil {creations : Nat} {requests : List Request}
    (h : requests.countP Request.isCreation = 0) : server.accepted creations requests = [] := by
  rw [List.eq_nil_iff_forall_not_mem]
  intro a m
  obtain ⟨member, creation⟩ := mem_of_mem_accepted m
  exact List.countP_eq_zero.1 h a.1 member creation

/-! ## Where answers lead -/

/-- An answer leads on only by a status of redirection, to the request that the location makes of
the one that is answered. -/
lemma course_eq_goesOn {creations : Nat} {request next : Request}
    (h : server.course creations request = .goesOn next) :
    ∃ response, (server.answer creations request).received? = some response ∧
      Response.isRedirection response.status ∧ response.location.isSome ∧
      ∃ target, next = request.redirected (Response.isRepetition response.status) target := by
  unfold course at h
  split at h
  case h_1 => cases h
  case h_2 response received =>
    unfold Response.course at h
    split at h
    case isFalse => cases h
    case isTrue redirection =>
      split at h
      case h_1 => cases h
      case h_2 => cases h
      case h_3 target found =>
        obtain ⟨location, given, -⟩ := Option.bind_eq_some_iff.1 found
        cases h
        exact ⟨response, received, redirection, by rw [given]; rfl, target, rfl⟩

lemma course_eq_ends_of_isSuccess {creations : Nat} {request : Request} {response : Response}
    (received : (server.answer creations request).received? = some response)
    (success : Response.isSuccess response.status) :
    server.course creations request = .ends (some response) := by
  have direct : Response.isRedirection response.status = false := by
    simp only [Response.isSuccess, Bool.and_eq_true, decide_eq_true_eq] at success
    simp only [Response.isRedirection, Response.isRepetition, Bool.or_eq_false_iff, beq_eq_false_iff_ne]
    omega
  simp only [course, received, Response.course, direct, Bool.false_eq_true, if_false]

/-! ## Conversations -/

/-- How a call goes whose request is sent after some creations, and which may be led to `room` other
locations: the requests, and the response in which they end. -/
inductive Converses (server : Server) :
    (room creations : Nat) → Request → List Request → Option Response → Prop where
  | ends {room creations : Nat} {request : Request} {response : Option Response} :
      server.course creations request = .ends response →
      Converses server room creations request [request] response
  | stops {creations : Nat} {request next : Request} :
      server.course creations request = .goesOn next →
      Converses server 0 creations request [request] none
  | leads {room creations : Nat} {request next : Request} {requests : List Request}
      {response : Option Response} :
      server.course creations request = .goesOn next →
      Converses server room (request.creationsAfter creations) next requests response →
      Converses server (room + 1) creations request (request :: requests) response

lemma converse_spec (server : Server) (room creations : Nat) (request : Request) :
    server.Converses room creations request (server.converse room creations request).1
      (server.converse room creations request).2 := by
  induction room generalizing creations request with
  | zero =>
    rw [converse]
    cases course : server.course creations request with
    | ends response => exact .ends course
    | goesOn next => exact .stops course
  | succ room ih =>
    rw [converse]
    cases course : server.course creations request with
    | ends response => exact .ends course
    | goesOn next => exact .leads course (ih _ _)

lemma Converses.exists_eq_cons {room creations : Nat} {request : Request}
    {requests : List Request} {response : Option Response}
    (h : server.Converses room creations request requests response) :
    ∃ led, requests = request :: led := by
  cases h with
  | ends _ => exact ⟨[], rfl⟩
  | stops _ => exact ⟨[], rfl⟩
  | leads _ _ => exact ⟨_, rfl⟩

end Server

/-- A redirection makes no creation of another request, and leaves its content. -/
lemma Request.body_redirected {request : Request} {again : Bool} {target : String}
    (h : (request.redirected again target).isCreation) :
    request.isCreation ∧ (request.redirected again target).body = request.body := by
  cases again with
  | true => exact ⟨h, rfl⟩
  | false => cases h

namespace Server

variable {server : Server} {room creations : Nat} {request : Request} {requests : List Request}
  {response : Option Response}

/-- All creations of a call carry the content of its own request. -/
lemma Converses.body_of_mem (h : server.Converses room creations request requests response)
    {r : Request} (m : r ∈ requests) (creation : r.isCreation) :
    request.isCreation ∧ r.body = request.body := by
  induction h with
  | ends _ =>
    obtain rfl := List.mem_singleton.1 m
    exact ⟨creation, rfl⟩
  | stops _ =>
    obtain rfl := List.mem_singleton.1 m
    exact ⟨creation, rfl⟩
  | leads course _ ih =>
    rcases List.mem_cons.1 m with rfl | m
    · exact ⟨creation, rfl⟩
    · obtain ⟨_, -, -, -, target, rfl⟩ := course_eq_goesOn course
      obtain ⟨creation, same⟩ := ih m
      obtain ⟨creation, same'⟩ := Request.body_redirected creation
      exact ⟨creation, same.trans same'⟩

lemma accepted?_of_goesOn {next : Request}
    (h : server.course creations request = .goesOn next) :
    accepted? (request, (server.answer creations request).received?) = none := by
  obtain ⟨response, received, redirection, -⟩ := course_eq_goesOn h
  rw [received, accepted?, if_neg]
  intro accepted
  have success := (Bool.and_eq_true_iff.1 accepted).2
  rw [course_eq_ends_of_isSuccess received success] at h
  cases h

/-- At most one creation of a call is answered with success, and if one is, the call is over with
that answer. -/
lemma Converses.accepted (h : server.Converses room creations request requests response) :
    server.accepted creations requests = [] ∨
      ∃ last answer, server.accepted creations requests = [(last, answer)] ∧
        response = some answer := by
  -- a request that leads on is not answered with success, so that only the last one counts
  induction h with
  | @ends _ creations request response course =>
    cases found : accepted? (request, (server.answer creations request).received?) with
    | none => exact .inl (by rw [Server.accepted, responses, List.filterMap_cons, found]; rfl)
    | some a =>
      obtain ⟨received, -, success⟩ := accepted?_eq_some found
      rw [course_eq_ends_of_isSuccess received success, Course.ends.injEq] at course
      refine .inr ⟨a.1, a.2, ?_, course.symm⟩
      rw [Server.accepted, responses, List.filterMap_cons, found]
      rfl
  | stops course =>
    refine .inl ?_
    rw [Server.accepted, responses, List.filterMap_cons, accepted?_of_goesOn course]
    rfl
  | leads course _ ih =>
    simpa only [Server.accepted, responses, List.filterMap_cons, accepted?_of_goesOn course] using ih

lemma Converses.of_course_eq_ends {answer : Option Response}
    (h : server.Converses room creations request requests response)
    (course : server.course creations request = .ends answer) :
    requests = [request] ∧ response = answer := by
  cases h with
  | ends course' =>
    rw [course, Course.ends.injEq] at course'
    exact ⟨rfl, course'.symm⟩
  | stops course' =>
    rw [course] at course'
    cases course'
  | leads course' _ =>
    rw [course] at course'
    cases course'

end Server

/-! ## Answers that lead nowhere -/

/-- An answer is not an interim one, behind which another response is still to come. -/
def Answer.IsFinal (answer : Answer) : Prop :=
  ∀ status body, answer = .answered status body → Response.isInterim status = false

lemma Answer.IsFinal.location_eq_none {answer : Answer} (h : answer.IsFinal) {response : Response}
    (received : answer.received? = some response) : response.location = none := by
  cases answer with
  | dropped => cases received
  | answered status body =>
    rw [Answer.received?, h _ _ rfl] at received
    split at received
    case isTrue => cases received
    case isFalse =>
      cases received
      rfl

namespace Server

variable {server : Server} {creations : Nat} {request : Request}

lemma course_of_isFinal (h : (server.answer creations request).IsFinal) :
    server.course creations request = .ends (server.answer creations request).received? := by
  cases received : (server.answer creations request).received? with
  | none => rw [course, received]
  | some answer =>
    simp only [course, received, Response.course, h.location_eq_none received, Option.bind_none,
      ite_self]

/-- No answer of a server is an interim one, behind which another response is still to come. -/
def AnswersAtOnce (server : Server) : Prop :=
  ∀ creations request status body, server.answer creations request = .answered status body →
    Response.isInterim status = false

end Server

/-! ## Calls -/

/-- What a response holds, if it is one of success and can be decoded. -/
def Response.content? {α : Type} (decode : Json → Option α) (response : Option Response) :
    Option α :=
  (response.filter fun answer => isSuccess answer.status).bind fun answer =>
    (Json.parse? answer.body).bind decode

lemma Response.exists_of_content? {α : Type} {decode : Json → Option α} {response : Option Response}
    {a : α} (h : content? decode response = some a) :
    ∃ answer, response = some answer ∧ isSuccess answer.status := by
  obtain ⟨answer, filtered, -⟩ := Option.bind_eq_some_iff.1 h
  obtain ⟨same, success⟩ := Option.filter_eq_some_iff.1 filtered
  exact ⟨answer, same, success⟩

/-- The exchange that a call takes is over with a response, unless there is none. -/
def Client.Conducts (c : Client) (server : Server) (creations : Nat) (x : Exchange)
    (response : Option Response) : Prop :=
  ∃ request, c.request? server.address x.call = some request ∧
    server.Converses maxRedirections creations request x.requests response

namespace Client

variable {α : Type} {c : Client} {server : Server} {decode : Json → Option α}

/-- A call whose own request is answered with a final answer takes no other request. -/
lemma Conducts.of_isFinal {creations : Nat} {x : Exchange} {response : Option Response}
    {request : Request} (h : c.Conducts server creations x response)
    (built : c.request? server.address x.call = some request)
    (final : (server.answer creations request).IsFinal) :
    x.requests = [request] ∧ response = (server.answer creations request).received? := by
  obtain ⟨request', built', converses⟩ := h
  rw [built, Option.some.injEq] at built'
  subst built'
  exact converses.of_course_eq_ends (Server.course_of_isFinal final)

lemma isSome_request?_iff {address : String} {call : Call} : (c.request? address call).isSome ↔
    (targetOn? address (c.addressOf call)).isSome ∧ c.hasUsableToken := by
  rw [request?]
  cases targetOn? address (c.addressOf call) with
  | none => simp
  | some target => cases c.hasUsableToken <;> simp

/-- The exchange that a call takes after some creations, unless there is no request for it. -/
def exchange? (c : Client) (server : Server) (creations : Nat) (call : Call) : Option Exchange :=
  (c.request? server.address call).map fun request =>
    ⟨call, (server.converse maxRedirections creations request).1⟩

/-- What a call comes to after some creations. -/
def result (c : Client) (server : Server) (decode : Json → Option α) (creations : Nat)
    (call : Call) : Except Failure α :=
  match c.request? server.address call with
  | none => .error .unsent
  | some request => outcome decode (server.converse maxRedirections creations request).2

lemma make_eq (sent : List Exchange) (call : Call) : c.make server decode sent call =
    (sent ++ (c.exchange? server (Exchange.countCreations sent) call).toList,
      c.result server decode (Exchange.countCreations sent) call) := by
  unfold make exchange? result
  cases c.request? server.address call with
  | none => simp
  | some request => rfl

lemma toOption_outcome (response : Option Response) :
    (outcome decode response).toOption = Response.content? decode response := by
  cases response with
  | none => rfl
  | some answer =>
    rw [outcome, Response.result, Response.content?, Option.filter_some]
    split
    case isFalse => rfl
    case isTrue =>
      rw [Option.bind_some]
      split
      case h_1 decoded => rw [decoded]; rfl
      case h_2 undecoded => rw [undecoded]; rfl

lemma exists_of_exchange? {creations : Nat} {call : Call} {x : Exchange}
    (h : c.exchange? server creations call = some x) : x.call = call ∧ ∃ response,
      c.Conducts server creations x response ∧ ∀ {α : Type} (decode : Json → Option α),
        (c.result server decode creations call).toOption = Response.content? decode response := by
  obtain ⟨request, built, rfl⟩ := Option.map_eq_some_iff.1 h
  refine ⟨rfl, _, ⟨request, built, server.converse_spec _ _ _⟩, fun decode => ?_⟩
  rw [result, built]
  exact toOption_outcome _

lemma exists_exchange?_of_isSome {creations : Nat} {call : Call}
    (h : (c.request? server.address call).isSome) :
    ∃ x, c.exchange? server creations call = some x := by
  obtain ⟨request, built⟩ := Option.isSome_iff_exists.1 h
  exact ⟨_, by rw [exchange?, built, Option.map_some]⟩

lemma exists_exchange?_of_result {creations : Nat} {call : Call} {a : α}
    (h : c.result server decode creations call = .ok a) :
    ∃ x, c.exchange? server creations call = some x := by
  refine exists_exchange?_of_isSome ?_
  rw [result] at h
  split at h
  case h_1 => cases h
  case h_2 built => rw [built, Option.isSome_some]

lemma method_and_body_of_request? {address : String} {call : Call} {request : Request}
    (h : c.request? address call = some request) :
    request.method = call.method ∧ request.body = call.content? := by
  obtain ⟨target, -, built⟩ := Option.bind_eq_some_iff.1 h
  obtain ⟨-, same⟩ := Option.ite_none_right_eq_some.1 built
  cases same
  exact ⟨rfl, rfl⟩

/-- A call that makes no issue takes no creation. -/
lemma countCreations_exchange? {creations : Nat} {call : Call} (h : call.method = .get) :
    Exchange.countCreations (c.exchange? server creations call).toList = 0 := by
  cases found : c.exchange? server creations call with
  | none => rfl
  | some x =>
    obtain ⟨rfl, response, ⟨request, built, converses⟩, -⟩ := exists_of_exchange? found
    rw [Option.toList_some, Exchange.countCreations, Exchange.allRequests, List.flatMap_singleton,
      List.countP_eq_zero]
    intro r m creation
    have own := (converses.body_of_mem m creation).1
    rw [Request.isCreation, (method_and_body_of_request? built).1, h] at own
    cases own

end Client

end Overdue
