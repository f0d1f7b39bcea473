import CardInventory.Api.Service
import CardInventory.Proofs.Api.Endpoint
import Mathlib.Data.List.Pairwise

/-!
# Requests to endpoints

No path fits two endpoints of one method. A request that an endpoint accepts is
therefore performed as the task this endpoint makes of it, and is not answered in
any other way.
-/

namespace CardInventory.Api

/-- An endpoint accepts a request as a task: the request has its method and a path of its form,
and the places of the path, the query and the body are understood. -/
def Endpoint.Accepts (endpoint : Endpoint) (request : Request) (task : Task) : Prop :=
  ∃ places, (endpoint, places) ∈ candidates request.path ∧
    endpoint.method = servedMethod request.method ∧ endpoint.handle places request = .ok task

/-! ## Paths of two endpoints -/

/-- Whether some path may fit both of two endpoints' paths. -/
def overlap : List Segment → List Segment → Bool
  | [], [] => true
  | .fixed name :: rest, .fixed name' :: rest' => name = name' && overlap rest rest'
  | _ :: rest, _ :: rest' => overlap rest rest'
  | _, _ => false

theorem matchPath?_cons {segment : Segment} {rest : List Segment} {part : String}
    {parts places : List String}
    (fits : matchPath? (segment :: rest) (part :: parts) = some places) :
    (∃ places', matchPath? rest parts = some places') ∧
      ∀ name, segment = .fixed name → name = part := by
  cases segment with
  | fixed name =>
      rw [matchPath?] at fits
      split at fits
      · rename_i same
        exact ⟨⟨_, fits⟩, fun name' fixed => Segment.fixed.inj fixed ▸ same⟩
      · cases fits
  | place name =>
      rw [matchPath?] at fits
      split at fits
      · cases fits
      · obtain ⟨places', tail, -⟩ := Option.map_eq_some_iff.mp fits
        exact ⟨⟨_, tail⟩, nofun⟩

theorem overlap_of_matchPath? {path path' : List Segment} {parts places places' : List String}
    (fits : matchPath? path parts = some places) (fits' : matchPath? path' parts = some places') :
    overlap path path' = true := by
  induction path generalizing path' parts places places' with
  | nil =>
      cases parts with
      | cons part parts => simp [matchPath?] at fits
      | nil =>
          cases path' with
          | nil => rfl
          | cons segment' rest' => cases segment' <;> simp [matchPath?] at fits'
  | cons segment rest ih =>
      cases parts with
      | nil => cases segment <;> simp [matchPath?] at fits
      | cons part parts =>
          cases path' with
          | nil => simp [matchPath?] at fits'
          | cons segment' rest' =>
              obtain ⟨⟨_, tail⟩, named⟩ := matchPath?_cons fits
              obtain ⟨⟨_, tail'⟩, named'⟩ := matchPath?_cons fits'
              have onward := ih tail tail'
              cases segment with
              | place name => exact onward
              | fixed name =>
                  cases segment' with
                  | place name' => exact onward
                  | fixed name' =>
                      have same : name = name' := (named name rfl).trans (named' name' rfl).symm
                      simp [overlap, same, onward]

/-- The paths of two endpoints of one method do not overlap. -/
theorem endpoints_apart :
    endpoints.Pairwise fun endpoint endpoint' =>
      endpoint.method = endpoint'.method → overlap endpoint.path endpoint'.path = false := by
  decide

/-- The endpoints that fit a path differ in their methods. -/
theorem candidates_apart (path : String) :
    (candidates path).Pairwise fun candidate candidate' =>
      candidate.1.method ≠ candidate'.1.method := by
  simp only [candidates]
  split
  · refine List.pairwise_filterMap.mpr (endpoints_apart.imp ?_)
    intro endpoint endpoint' apart candidate fits candidate' fits' same
    obtain ⟨places, matched, rfl⟩ := Option.map_eq_some_iff.mp fits
    obtain ⟨places', matched', rfl⟩ := Option.map_eq_some_iff.mp fits'
    cases (overlap_of_matchPath? matched matched').symm.trans (apart same)
  · exact .nil

/-- An endpoint whose path fits what follows the common start of a path is a candidate. -/
theorem mem_candidates {endpoint : Endpoint} {path : String} {parts places : List String}
    (listed : endpoint ∈ endpoints) (based : pathParts path = basePath ++ parts)
    (matched : matchPath? endpoint.path parts = some places) :
    (endpoint, places) ∈ candidates path := by
  have start : basePath.isPrefixOf (pathParts path) = true := by
    rw [based]
    exact List.isPrefixOf_iff_prefix.mpr (List.prefix_append _ _)
  simp only [candidates, if_pos start]
  refine List.mem_filterMap.mpr ⟨endpoint, listed, ?_⟩
  rw [based, List.drop_left, matched, Option.map_some]

/-! ## Routing -/

section Accepts

variable {endpoint : Endpoint} {request : Request} {task : Task}

theorem Endpoint.Accepts.listed (accepts : endpoint.Accepts request task) :
    endpoint ∈ endpoints := by
  obtain ⟨places, candidate, -, -⟩ := accepts
  exact mem_endpoints_of_candidates candidate

/-- A request that an endpoint accepts is for none of the other pages. -/
theorem Endpoint.Accepts.not_page (accepts : endpoint.Accepts request task) :
    (pages.find? fun page => page.1 = request.path) = none := by
  obtain ⟨places, candidate, -, -⟩ := accepts
  have elsewhere : ∀ page ∈ pages, candidates page.1 = [] := by decide
  rw [List.find?_eq_none]
  intro page listed same
  rw [← of_decide_eq_true same, elsewhere page listed] at candidate
  cases candidate

theorem Endpoint.Accepts.route_eq (accepts : endpoint.Accepts request task) :
    route request = .perform task := by
  obtain ⟨places, candidate, served, handled⟩ := id accepts
  have chosen : ((candidates request.path).find? fun candidate =>
      candidate.1.method = servedMethod request.method) = some (endpoint, places) := by
    cases found : (candidates request.path).find? fun candidate =>
        candidate.1.method = servedMethod request.method with
    | none => simpa [served] using List.find?_eq_none.mp found _ candidate
    | some other =>
        have method : other.1.method = servedMethod request.method := by
          simpa using List.find?_some found
        have member := List.mem_of_find?_eq_some found
        have symmetric : Std.Symm fun candidate candidate' : Endpoint × List String =>
            candidate.1.method ≠ candidate'.1.method := ⟨fun _ _ => Ne.symm⟩
        by_contra different
        exact (candidates_apart request.path).forall member candidate (different ∘ congrArg some)
          (method.trans served.symm)
  simp only [route, accepts.not_page, chosen, handled]

theorem Endpoint.Accepts.serve_eq (accepts : endpoint.Accepts request task) (cors : Cors) :
    serve cors request = .pending task.operation fun outcome =>
      cors.decorate request ((task.complete outcome).forMethod request.method) := by
  have method : request.method ≠ "OPTIONS" := by
    obtain ⟨places, candidate, served, -⟩ := id accepts
    have others : ∀ endpoint ∈ endpoints, endpoint.method ≠ servedMethod "OPTIONS" := by decide
    intro same
    exact others endpoint accepts.listed (same ▸ served)
  simp [serve, Cors.intercepts, method, accepts.route_eq]

end Accepts

end CardInventory.Api
