import Issuer.DispatchSound
import Issuer.Lib.Except

/-!
# Methods and routes

`OPTIONS` answers, the check of the method before the router and the registered routes name the methods of a path
three times over. They agree, but for `DELETE` below the fixtures with other than one segment. The handlers that are
registered below `/_internal/` are out of reach for requests other than those of a sibling worker.
-/

namespace Issuer

open Rust

namespace Dispatch

open Http

open Cors (UrlLibrary)

/-! ## Registered paths -/

def fixturesPrefix : String := "/_internal/test-fixtures/"

def literalRoutes (env : WorkerEnv) : List (Method × String) :=
  ((commonRoutes ++ sandboxRoutes env).filter fun entry => entry.2.2 != .deleteTestFixtures).map fun entry => (entry.1, entry.2.1)

/-- `:class` stands for one segment. -/
def OneSegment (path : String) : Prop := ∃ segment, path = fixturesPrefix ++ segment ∧ segment ≠ "" ∧ '/' ∉ segment.toList

/-- A pattern as `Router` documents it: itself, where it has no parameter. -/
structure Matching (matchesPattern : String → String → Prop) : Prop where
  literal : ∀ env, ∀ entry ∈ literalRoutes env, ∀ path, matchesPattern entry.2 path ↔ path = entry.2
  param : ∀ path, matchesPattern "/_internal/test-fixtures/:class" path ↔ OneSegment path

def Registered (matchesPattern : String → String → Prop) (env : WorkerEnv) (method : Method) (path : String) : Prop :=
  ∃ entry ∈ commonRoutes ++ sandboxRoutes env, entry.1 = method ∧ matchesPattern entry.2.1 path

section
variable {env : WorkerEnv} {path : String}

def knownPaths : List String :=
  ["/health", "/health/detailed", "/metrics", "/v1/openapi.json", "/v1/docs", "/v1/challenge", "/v1/issuance/blind",
    "/v1/attestation/create", "/v1/jwks.json", "/.well-known/jwks.json", "/v1/admin/keys/rotate",
    "/v1/admin/attestation-keys/rotate", "/v1/admin/keys/health", "/_internal/version",
    "/_internal/replay-saved-pre-rotation-token", "/_internal/test-fixtures", "/v1/register-test-issuer"]

theorem literalRoutes_known (env : WorkerEnv) : ∀ entry ∈ literalRoutes env, entry.2 ∈ knownPaths := by
  unfold literalRoutes sandboxRoutes
  cases env.isSandbox <;> decide

def methodsOf (env : WorkerEnv) (path : String) : List Method :=
  ((literalRoutes env).filter fun entry => entry.2 = path).map Prod.fst

def tableOf (env : WorkerEnv) (path : String) : List Method :=
  methodsOf env path ++ if hasPrefix fixturesPrefix path then [.delete] else []

theorem methodsOf_unknown (hpath : path ∉ knownPaths) : methodsOf env path = [] := by
  unfold methodsOf
  rw [List.map_eq_nil_iff, List.filter_eq_nil_iff]
  intro entry hentry heq
  exact hpath (of_decide_eq_true heq ▸ literalRoutes_known env entry hentry)

theorem allowed_eq (env : WorkerEnv) (path : String) : allowedMethodsForPath env path = tableOf env path := by
  by_cases hknown : path ∈ knownPaths
  · have hall : ∀ path ∈ knownPaths, allowedMethodsForPath env path = tableOf env path := by
      unfold allowedMethodsForPath tableOf methodsOf literalRoutes sandboxRoutes
      cases env.isSandbox <;> decide
    exact hall path hknown
  · rw [tableOf, methodsOf_unknown hknown, List.nil_append]
    simp only [knownPaths, List.mem_cons, List.not_mem_nil, or_false, not_or] at hknown
    by_cases hfixtures : hasPrefix "/_internal/test-fixtures/" path = true
    · simp [allowedMethodsForPath, hknown, fixturesPrefix, hfixtures]
    · simp [allowedMethodsForPath, hknown, fixturesPrefix, hfixtures]

theorem optionsAllow_eq (env : WorkerEnv) (path : String) :
    optionsAllow env path = allowText (tableOf env path ++ [.options]) := by
  by_cases hknown : path ∈ knownPaths
  · have hall : ∀ path ∈ knownPaths,
        optionsAllow env path = allowText (tableOf env path ++ [.options]) := by
      unfold optionsAllow tableOf methodsOf literalRoutes sandboxRoutes
      cases env.isSandbox <;> decide
    exact hall path hknown
  · rw [tableOf, methodsOf_unknown hknown, List.nil_append]
    simp only [knownPaths, List.mem_cons, List.not_mem_nil, or_false, not_or] at hknown
    by_cases hfixtures : hasPrefix "/_internal/test-fixtures/" path = true
    · simp [optionsAllow, hknown, fixturesPrefix, hfixtures]
      decide
    · simp [optionsAllow, hknown, fixturesPrefix, hfixtures]
      decide

/-! ## What is registered -/

theorem mem_methodsOf {method : Method} : method ∈ methodsOf env path ↔ (method, path) ∈ literalRoutes env := by
  simp [methodsOf]

theorem fixtures_entry : ∀ entry ∈ commonRoutes ++ sandboxRoutes env, entry.2.2 = .deleteTestFixtures →
    entry = (.delete, "/_internal/test-fixtures/:class", .deleteTestFixtures) := by
  unfold sandboxRoutes
  cases env.isSandbox <;> decide

theorem registered_iff {matchesPattern : String → String → Prop} (hmatching : Matching matchesPattern) {method : Method} :
    Registered matchesPattern env method path ↔ method ∈ methodsOf env path ∨ method = .delete ∧ OneSegment path := by
  rw [mem_methodsOf]
  constructor
  · rintro ⟨entry, hentry, rfl, hmatch⟩
    by_cases hfixtures : entry.2.2 = .deleteTestFixtures
    · have heq := fixtures_entry entry hentry hfixtures
      subst heq
      exact .inr ⟨rfl, (hmatching.param path).mp hmatch⟩
    · have hliteral : (entry.1, entry.2.1) ∈ literalRoutes env :=
        List.mem_map.mpr ⟨entry, List.mem_filter.mpr ⟨hentry, by simpa using hfixtures⟩, rfl⟩
      have hpath := (hmatching.literal env _ hliteral path).mp hmatch
      rw [hpath]
      exact .inl hliteral
  · rintro (hliteral | ⟨rfl, hsegment⟩)
    · have hmatch := (hmatching.literal env _ hliteral path).mpr rfl
      obtain ⟨entry, hentry, heq⟩ := List.mem_map.mp hliteral
      simp only [Prod.mk.injEq] at heq
      obtain ⟨rfl, rfl⟩ := heq
      exact ⟨entry, List.mem_of_mem_filter hentry, rfl, hmatch⟩
    · refine ⟨(.delete, "/_internal/test-fixtures/:class", .deleteTestFixtures), ?_, rfl, (hmatching.param path).mpr hsegment⟩
      exact List.mem_append_left _ (by decide)

end

/-- **The three tables agree.** The answer to `OPTIONS` names the methods that the check admits, and `OPTIONS`. A method
is admitted for a path exactly when a route is registered for it, or it is `DELETE` below the fixtures and what follows
them is not one segment. -/
theorem method_tables_agree {matchesPattern : String → String → Prop} (hmatching : Matching matchesPattern) (env : WorkerEnv)
    (path : String) (method : Method) :
    optionsAllow env path = allowText (allowedMethodsForPath env path ++ [.options]) ∧
      (method ∈ allowedMethodsForPath env path ↔ Registered matchesPattern env method path ∨
        method = .delete ∧ hasPrefix fixturesPrefix path = true ∧ ¬OneSegment path) := by
  rw [allowed_eq]
  refine ⟨optionsAllow_eq env path, ?_⟩
  rw [registered_iff hmatching, tableOf, List.mem_append]
  have hprefix : OneSegment path → hasPrefix fixturesPrefix path = true := by
    rintro ⟨segment, rfl, -, -⟩
    exact hasPrefix_append _ _
  by_cases hsegment : OneSegment path
  · simp [hsegment, hprefix hsegment]
  · by_cases hfixtures : hasPrefix fixturesPrefix path = true
    · simp [hsegment, hfixtures]
    · simp [hsegment, hfixtures]

def documentedMatch (pattern path : String) : Prop :=
  if pattern = "/_internal/test-fixtures/:class" then OneSegment path else path = pattern

theorem documentedMatch_matching : Matching documentedMatch := by
  refine ⟨fun env entry hentry path => ?_, fun path => ?_⟩
  · have hne : entry.2 ≠ "/_internal/test-fixtures/:class" := by
      intro heq
      have hknown := literalRoutes_known env entry hentry
      rw [heq] at hknown
      revert hknown
      decide
    rw [documentedMatch, if_neg hne]
  · rw [documentedMatch, if_pos rfl]

theorem nested_fixture_admitted : optionsAllow plainEnv "/_internal/test-fixtures/a/b" = "DELETE, OPTIONS" ∧
    (Method.delete ∈ allowedMethodsForPath plainEnv "/_internal/test-fixtures/a/b" ↔
      Registered documentedMatch plainEnv .delete "/_internal/test-fixtures/a/b" ∨ Method.delete = .delete ∧
        hasPrefix fixturesPrefix "/_internal/test-fixtures/a/b" = true ∧ ¬OneSegment "/_internal/test-fixtures/a/b") :=
  ⟨by decide, (method_tables_agree documentedMatch_matching plainEnv "/_internal/test-fixtures/a/b" .delete).2⟩

/-! ## Internal routes -/

/-- A router runs a handler only for the method it is registered with, on a path that its pattern matches. -/
def Dispatches (matchesPattern : String → String → Prop) (router : RouterLibrary) : Prop :=
  ∀ env method path route param, router (routes env) method path = .handler route param →
    ∃ entry ∈ routes env, entry.1 = method ∧ entry.2.2 = route ∧ matchesPattern entry.2.1 path

def RegisteredOutside (env : WorkerEnv) (route : Route) : Prop :=
  ∀ entry ∈ routes env, entry.2.2 = route → isInternalRoute entry.2.1 = false

/-- A request as a sibling worker makes it: to an internal path, without a connecting address, and with the three
`Sec-Fetch-*` headers of a call within the site. -/
structure ServiceCall (req : Request) : Prop where
  path : isInternalRoute req.path = true
  direct : (getHeader "CF-Connecting-IP" req.headers).getD "" = ""
  site : ∃ site, getHeader "Sec-Fetch-Site" req.headers = some site ∧
    toAsciiLowercase site ∈ ["same-origin", "same-site", "none"]
  mode : ∃ mode, getHeader "Sec-Fetch-Mode" req.headers = some mode ∧ toAsciiLowercase mode ∈ ["cors", "same-origin"]
  dest : ∃ dest, getHeader "Sec-Fetch-Dest" req.headers = some dest ∧ toAsciiLowercase dest = "empty"

section
variable {U : UrlLibrary} {env : WorkerEnv} {call : Call} {router : RouterLibrary}
  {handlers handlers' : Route → String → Request → Limits (Except Unit Response)}

theorem missing_strict : missingSecFetch true ≠ .ok () := by decide

theorem site_of_strict {headers : Headers} (h : validateSecFetchSite true headers = .ok ()) : ∃ site,
    getHeader "Sec-Fetch-Site" headers = some site ∧ toAsciiLowercase site ∈ ["same-origin", "same-site", "none"] := by
  unfold validateSecFetchSite at h
  cases hsite : getHeader "Sec-Fetch-Site" headers with
  | none => rw [hsite] at h; exact absurd h missing_strict
  | some site =>
    rw [hsite] at h
    refine ⟨site, rfl, ?_⟩
    by_contra hother
    simp only [if_neg hother] at h
    split at h <;> cases h

theorem mode_of_strict {headers : Headers} (h : validateSecFetchMode true headers = .ok ()) : ∃ mode,
    getHeader "Sec-Fetch-Mode" headers = some mode ∧ toAsciiLowercase mode ∈ ["cors", "same-origin"] := by
  unfold validateSecFetchMode at h
  cases hmode : getHeader "Sec-Fetch-Mode" headers with
  | none => rw [hmode] at h; exact absurd h missing_strict
  | some mode =>
    rw [hmode] at h
    refine ⟨mode, rfl, ?_⟩
    by_contra hother
    simp only [if_neg hother] at h
    split at h
    · cases h
    · split at h
      · cases h
      · split at h <;> cases h

theorem dest_of_strict {headers : Headers} (h : validateSecFetchDest true headers = .ok ()) : ∃ dest,
    getHeader "Sec-Fetch-Dest" headers = some dest ∧ toAsciiLowercase dest = "empty" := by
  unfold validateSecFetchDest at h
  cases hdest : getHeader "Sec-Fetch-Dest" headers with
  | none => rw [hdest] at h; exact absurd h missing_strict
  | some dest =>
    rw [hdest] at h
    refine ⟨dest, rfl, ?_⟩
    by_contra hother
    simp [hother] at h

theorem serviceCall_of_checked (hpath : isInternalRoute call.request.path = true) (hchecked : checkFetchMetadata call = .ok ())
    (hdirect : (getHeader "CF-Connecting-IP" call.request.headers).getD "" = "") : ServiceCall call.request := by
  have hdocs : ¬(call.request.path = "/v1/docs" ∨ call.request.path = "/v1/openapi.json") := by
    rintro (he | he)
    · rw [he] at hpath
      revert hpath
      decide
    · rw [he] at hpath
      revert hpath
      decide
  unfold checkFetchMetadata at hchecked
  dsimp only at hchecked
  rw [if_neg hdocs, hpath] at hchecked
  cases hvalid : validateFetchMetadata true call.request.headers with
  | error e => rw [hvalid] at hchecked; cases hchecked
  | ok u =>
    simp only [validateFetchMetadata, Except.bind_eq_ok] at hvalid
    obtain ⟨_, hsite, _, hmode, hdest⟩ := hvalid
    exact ⟨hpath, hdirect, site_of_strict hsite, mode_of_strict hmode, dest_of_strict hdest⟩

theorem internal_entries (env : WorkerEnv) : ∀ entry ∈ routes env, isInternalRoute entry.2.1 = true →
    entry.2.2.isInternal = true ∧ entry.2.2 ≠ .catchall := by
  unfold routes sandboxRoutes
  cases env.isSandbox <;> decide

theorem routes_nodup (env : WorkerEnv) : ((routes env).map fun entry => entry.2.2).Nodup := by
  unfold routes sandboxRoutes
  cases env.isSandbox <;> decide

theorem internal_path {matchesPattern : String → String → Prop} (hmatching : Matching matchesPattern)
    {entry : Method × String × Route} (hentry : entry ∈ routes env) (hinternal : isInternalRoute entry.2.1 = true) {path : String}
    (hpath : matchesPattern entry.2.1 path) : isInternalRoute path = true := by
  have hregistered : entry ∈ commonRoutes ++ sandboxRoutes env := by
    rcases List.mem_append.mp hentry with h | h
    · exact h
    · rw [List.mem_singleton.mp h] at hinternal
      exact absurd hinternal (by decide)
  by_cases hfixtures : entry.2.2 = .deleteTestFixtures
  · have heq := fixtures_entry entry hregistered hfixtures
    subst heq
    obtain ⟨segment, rfl, -, -⟩ := (hmatching.param path).mp hpath
    rw [isInternalRoute, show fixturesPrefix = "/_internal/" ++ "test-fixtures/" by decide, String.append_assoc]
    exact hasPrefix_append _ _
  · have hliteral : (entry.1, entry.2.1) ∈ literalRoutes env :=
      List.mem_map.mpr ⟨entry, List.mem_filter.mpr ⟨hregistered, by simpa using hfixtures⟩, rfl⟩
    rw [(hmatching.literal env _ hliteral path).mp hpath]
    exact hinternal

theorem dispatched {matchesPattern : String → String → Prop} (hmatching : Matching matchesPattern)
    (hrouter : Dispatches matchesPattern router) (hagree : ∀ route, RegisteredOutside env route → handlers route = handlers' route)
    {route : Route} {param : String} (hroute : router (routes env) call.request.method call.request.path = .handler route param) :
    handlers route = handlers' route ∨
      route.isInternal = true ∧ route ≠ .catchall ∧ isInternalRoute call.request.path = true := by
  obtain ⟨entry, hentry, -, rfl, hpath⟩ := hrouter env _ _ _ _ hroute
  by_cases hinternal : isInternalRoute entry.2.1 = true
  · obtain ⟨hguarded, hcatchall⟩ := internal_entries env entry hentry hinternal
    exact .inr ⟨hguarded, hcatchall, internal_path hmatching hentry hinternal hpath⟩
  · refine .inl (hagree _ fun entry' hentry' hsame => ?_)
    rw [List.inj_on_of_nodup_map (routes_nodup env) hentry' hentry hsame]
    simpa using hinternal

theorem runRouter_shielded {matchesPattern : String → String → Prop} (hmatching : Matching matchesPattern)
    (hrouter : Dispatches matchesPattern router) (hagree : ∀ route, RegisteredOutside env route → handlers route = handlers' route)
    (hchecked : checkFetchMetadata call = .ok ()) (hcall : ¬ServiceCall call.request) :
    runRouter env call router handlers = runRouter env call router handlers' := by
  unfold runRouter
  cases hroute : router (routes env) call.request.method call.request.path with
  | anyMethod => rfl
  | own resp => rfl
  | handler route param =>
    change runRoute call handlers route param = runRoute call handlers' route param
    rcases dispatched hmatching hrouter hagree hroute with hsame | ⟨hinternal, hcatchall, hpath⟩
    · unfold runRoute
      rw [hsame]
    · -- the guard of the route has the last word
      have hexternal : (getHeader "CF-Connecting-IP" call.request.headers).getD "" ≠ "" :=
        fun hdirect => hcall (serviceCall_of_checked hpath hchecked hdirect)
      unfold runRoute rejectExternalInternalTraffic
      rw [if_neg hcatchall, if_pos hinternal, if_neg hexternal, if_neg hcatchall, if_pos hinternal]

end

/-- **Internal handlers are out of reach from outside.** Whatever the router does within its documentation, a request
other than a sibling worker's is answered the same whatever the handlers are that are registered below `/_internal/`. -/
theorem internal_handlers_shielded {matchesPattern : String → String → Prop} (hmatching : Matching matchesPattern)
    (U : UrlLibrary) (env : WorkerEnv) (call : Call) (router : RouterLibrary) (hrouter : Dispatches matchesPattern router)
    (handlers handlers' : Route → String → Request → Limits (Except Unit Response))
    (hagree : ∀ route, RegisteredOutside env route → handlers route = handlers' route) (hcall : ¬ServiceCall call.request) :
    main U env call router handlers = main U env call router handlers' := by
  have hbehind : behindLimit U env call router handlers = behindLimit U env call router handlers' := by
    unfold behindLimit
    cases hfetch : checkFetchMetadata call with
    | error resp => rfl
    | ok u =>
      have hsame : respond env call router handlers = respond env call router handlers' := by
        unfold respond
        rw [runRouter_shielded hmatching hrouter hagree hfetch hcall]
      rw [hsame]
  unfold main
  rw [hbehind]

def literalRouter : RouterLibrary := fun table method path =>
  match table.find? fun entry => entry.1 == method && entry.2.1 == path with
  | some entry => .handler entry.2.2 ""
  | none => .anyMethod

theorem literalRouter_dispatches : Dispatches documentedMatch literalRouter := by
  intro env method path route param h
  unfold literalRouter at h
  cases hfind : (routes env).find? fun entry => entry.1 == method && entry.2.1 == path with
  | none => rw [hfind] at h; cases h
  | some entry =>
    rw [hfind] at h
    cases h
    have hentry := List.find?_some hfind
    simp only [Bool.and_eq_true, beq_iff_eq] at hentry
    obtain ⟨rfl, rfl⟩ := hentry
    refine ⟨entry, List.mem_of_find?_eq_some hfind, rfl, rfl, ?_⟩
    unfold documentedMatch
    split
    · rename_i hparam
      rw [hparam]
      exact ⟨":class", by decide, by decide, by decide⟩
    · rfl

/-- All that a sibling worker sends, and a connecting address. -/
def outsideCall : Call := ⟨⟨.get, "/_internal/version", "", [("CF-Connecting-IP", "192.0.2.1"), ("Sec-Fetch-Site", "none"),
  ("Sec-Fetch-Mode", "cors"), ("Sec-Fetch-Dest", "empty")]⟩, "r1", "n1"⟩

/-- The request reaches the guard of the route, which turns it down. -/
theorem outside_version_shielded :
    ((main noUrls plainEnv outsideCall literalRouter plainHandlers).play LimitsWorld.handle (fun _ => .at 7200000)
      quietWorld).1.status = 401 ∧
    main noUrls plainEnv outsideCall literalRouter plainHandlers = main noUrls plainEnv outsideCall literalRouter
      fun route param req => if route.isInternal then pure (.error ()) else plainHandlers route param req := by
  refine ⟨by decide +kernel, internal_handlers_shielded documentedMatch_matching noUrls plainEnv outsideCall
    literalRouter literalRouter_dispatches _ _ (fun route hroute => ?_) fun hcall => absurd hcall.direct (by decide)⟩
  have hinternal : route.isInternal = false := by
    cases hguarded : route.isInternal with
    | false => rfl
    | true =>
      obtain ⟨entry, hentry, rfl, hpath⟩ : ∃ entry ∈ routes plainEnv, entry.2.2 = route ∧ isInternalRoute entry.2.1 = true := by
        revert hguarded
        cases route <;> decide
      rw [hroute entry hentry rfl] at hpath
      cases hpath
  funext param req
  simp [hinternal]

end Dispatch

end Issuer
