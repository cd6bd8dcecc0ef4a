import RoleAccess.Checker.Session
import RoleAccess.Policy.Text
import RoleAccess.Proofs.Environment.Bindings

/-!
# What a session leaves behind

A checker remembers one thing of a session: the environment that the last successful
replacement put in. A step either puts an environment in as a whole or leaves the checker
as it was (`after_eq`), so a session leads to the checker in the last environment that
was put in (`afterAll_eq_resumed`), whatever else was asked on the way and whatever
failed.

Main statement: each answer of a session is the one that a checker built anew in the same
way gives in that environment; a replacement that fails changes nothing, and one that
succeeds keeps the hierarchy and the forest and leaves no binding but its own
(`replies_independent_of_history`).
-/

namespace RoleAccess.Checker

/-- The ways to build a checker. -/
inductive Origin where
  | rules (roleRules : List RoleRule) (permissionRules : List PermissionRule)
  | text (policy : String)
  | parts (hierarchy : Hierarchy) (forest : Forest) (environment : Option Environment)

/-- Builds a checker. The empty environment is the first one unless another is given with
the parts. -/
def Origin.build : Origin → Except PolicyError Checker
  | .rules roleRules permissionRules => ofRules roleRules permissionRules
  | .text policy => Policy.parse policy
  | .parts hierarchy forest environment => .ok ⟨hierarchy, forest, environment.getD .empty⟩

namespace Request

/-- The environment that a request puts in. -/
def installed? (request : Request) : Option Environment :=
  match request.replacement with
  | some (.ok environment) => some environment
  | _ => none

/-- The entries for variables in a replacement. -/
def variableEntries : Request → List (Value × Value)
  | .setEnvironment bindings _ => bindings
  | .assign document => Environment.sectionEntries "variables" document
  | _ => []

/-- The entries for sets in a replacement. -/
def setEntries : Request → List (Value × Value)
  | .setEnvironment _ sets => sets
  | .assign document => Environment.sectionEntries "sets" document
  | _ => []

end Request

/-- The environment that the last successful replacement among requests puts in. -/
def lastInstalled (requests : List Request) : Option Environment :=
  (requests.filterMap Request.installed?).getLast?

/-- A checker in the environment that the last successful replacement among requests puts
in; without one, in its own. -/
def resumed (checker : Checker) (requests : List Request) : Checker :=
  match lastInstalled requests with
  | none => checker
  | some environment => checker.withEnvironment environment

variable {checker : Checker} {request : Request} {requests before rest : List Request}
  {environment : Environment}

/-! ## One step -/

theorem Request.installed?_eq_some_iff :
    request.installed? = some environment ↔ request.replacement = some (.ok environment) := by
  unfold installed?
  split
  · next given hreplacement => simp [hreplacement]
  · next hother =>
      constructor
      · intro h
        cases h
      · intro h
        exact absurd h (hother environment)

/-- A step puts an environment in or leaves the checker as it was. -/
theorem after_eq (checker : Checker) (request : Request) :
    checker.after request =
      match request.installed? with
      | none => checker
      | some environment => checker.withEnvironment environment := by
  cases h : request.installed? with
  | some environment =>
      rw [Request.installed?_eq_some_iff] at h
      simp [after, h]
  | none =>
      unfold after
      split
      · next environment hreplacement =>
          rw [Request.installed?_eq_some_iff.2 hreplacement] at h
          cases h
      · rfl

/-- The environment of a successful replacement is the one that its own entries give. -/
theorem build_of_replacement_eq (h : request.replacement = some (.ok environment)) :
    Environment.build request.variableEntries request.setEntries = .ok environment := by
  cases request with
  | setEnvironment bindings sets => exact Option.some.inj h
  | assign document => exact Environment.build_of_ofDocument_eq_ok (Option.some.inj h)
  | _ => cases h

/-! ## A whole session -/

theorem lastInstalled_cons :
    lastInstalled (request :: rest) = (lastInstalled rest).or request.installed? := by
  unfold lastInstalled
  cases h : request.installed? with
  | none => simp [h]
  | some environment =>
      rw [List.filterMap_cons_some h, List.getLast?_cons]
      cases (rest.filterMap Request.installed?).getLast? <;> rfl

/-- A session leads to the checker in the last environment that was put in. -/
theorem afterAll_eq_resumed (checker : Checker) (requests : List Request) :
    checker.afterAll requests = checker.resumed requests := by
  induction requests generalizing checker with
  | nil => rfl
  | cons request rest ih =>
      rw [afterAll_cons, ih, resumed, resumed, lastInstalled_cons, after_eq]
      cases lastInstalled rest with
      | some environment =>
          -- A later replacement hides what this request has put in.
          cases request.installed? <;> rfl
      | none => cases request.installed? <;> rfl

/-- The answer to a request of a session is given in the state that the requests before it
have led to. -/
theorem replies_getElem? :
    (checker.replies (before ++ request :: rest))[before.length]? =
      some ((checker.afterAll before).reply request) := by
  induction before generalizing checker with
  | nil => rfl
  | cons first before ih =>
      rw [List.cons_append, replies, List.length_cons, List.getElem?_cons_succ, ih, afterAll_cons]

/-- Nothing of a session but the environment put in last has a part in an answer. Each answer
is that of a checker built anew in the same way that received this environment and nothing
else. A replacement that fails leaves the checker as it was, and one that succeeds leaves the
hierarchy and the forest of the beginning with the bindings that the replacement itself has. -/
theorem replies_independent_of_history {origin : Origin} (built : origin.build = .ok checker)
    (before rest : List Request) (request : Request) :
    (∀ fresh, origin.build = .ok fresh →
      (checker.replies (before ++ request :: rest))[before.length]? =
        some ((fresh.resumed before).reply request)) ∧
    (∀ fault, request.replacement = some (.error fault) →
      (checker.afterAll before).after request = checker.afterAll before) ∧
    ∀ environment, request.replacement = some (.ok environment) →
      (checker.afterAll before).after request =
          ⟨checker.hierarchy, checker.forest, environment⟩ ∧
        (∀ name value, environment.lookup name = some value →
          ∃ entry ∈ request.variableEntries, entry.1.plain = name ∧ entry.2.plain = value) ∧
        ∀ name value, environment.contains name value = true →
          ∃ entry ∈ request.setEntries, entry.1.plain = name ∧
            ∃ members, Environment.membersOf? entry.2 = some members ∧
              value ∈ members.map Value.plain := by
  refine ⟨fun fresh hfresh => ?_, fun fault hfault => ?_, fun environment henvironment => ?_⟩
  · have hsame : fresh = checker := Except.ok.inj (hfresh.symm.trans built)
    rw [replies_getElem?, afterAll_eq_resumed, hsame]
  · have hnone : request.installed? = none := by simp [Request.installed?, hfault]
    rw [after_eq, hnone]
  · have hbuild := build_of_replacement_eq henvironment
    refine ⟨?_, fun name value hlookup => ?_, fun name value hcontains => ?_⟩
    · rw [after_eq, Request.installed?_eq_some_iff.2 henvironment]
      show Checker.mk _ _ environment = _
      rw [hierarchy_afterAll, forest_afterAll]
    · rw [Environment.lookup_of_build hbuild] at hlookup
      obtain ⟨given, hlast, rfl⟩ := Option.map_eq_some_iff.1 hlookup
      obtain ⟨entry, hentry, hname, rfl⟩ := Environment.exists_mem_of_lastNamed_eq_some hlast
      exact ⟨entry, hentry, hname, rfl⟩
    · obtain ⟨members, hmembers, hvalue⟩ :=
        (Environment.contains_iff_of_build hbuild name value).1 hcontains
      obtain ⟨given, hlast, hgiven⟩ := Option.bind_eq_some_iff.1 hmembers
      obtain ⟨entry, hentry, hname, rfl⟩ := Environment.exists_mem_of_lastNamed_eq_some hlast
      exact ⟨entry, hentry, hname, members, hgiven, hvalue⟩

/-- After a replacement, a query, and two replacements that fail, the first one still
counts. -/
theorem reply_after_failed_replacements :
    ∃ checker, (Origin.rules [] [⟨.allow, "ann", [.bound "owner"]⟩]).build = .ok checker ∧
      (checker.replies
        [.setEnvironment [(.text "owner", .text "eve")] [], .check "ann" ["bob"],
          .assign (.list []), .setEnvironment [(.text "owner", .null)] [],
          .check "ann" ["eve"]])[4]? = some (.verdict (.ok true)) := by
  obtain ⟨checker, built, hanswer⟩ :
      ∃ checker, (Origin.rules [] [⟨.allow, "ann", [.bound "owner"]⟩]).build = .ok checker ∧
        (checker.withEnvironment { bindings := Table.empty.put "owner" "eve" }).check "ann"
          ["eve"] = .ok true := ⟨_, rfl, rfl⟩
  refine ⟨checker, built, ?_⟩
  have hreply := (replies_independent_of_history built
    [.setEnvironment [(.text "owner", .text "eve")] [], .check "ann" ["bob"], .assign (.list []),
      .setEnvironment [(.text "owner", .null)] []] [] (.check "ann" ["eve"])).1 checker built
  refine hreply.trans ?_
  have hresumed : checker.resumed [.setEnvironment [(.text "owner", .text "eve")] [],
      .check "ann" ["bob"], .assign (.list []), .setEnvironment [(.text "owner", .null)] []] =
      checker.withEnvironment { bindings := Table.empty.put "owner" "eve" } := rfl
  rw [hresumed]
  exact congrArg (fun outcome => some (Reply.verdict outcome)) hanswer

end RoleAccess.Checker
