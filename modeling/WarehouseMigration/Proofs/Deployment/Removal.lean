import WarehouseMigration.Deployment.Dashboard
import WarehouseMigration.Proofs.Session.Calls

/-!
# Removing dashboards that are not valid any more

One goes through the table of dashboards and removes from it, on the way, those that are not valid.  A table must not
change its size while one goes through it, so the first removal is the last one: `exec_eachDashboard_of_valid` says
that nothing happens as long as the entries are valid, `exists_exec_eachDashboard_of_deprecated` that the first entry
which is not ends the whole with a failure, after it was removed.  So the table is cleared exactly when there is
nothing to remove (`removeDeprecatedDashboards_clears_iff`).
-/

namespace WarehouseMigration.Deployment

open WarehouseMigration.Flow

variable {s s' : Session} {valid : List String} {size : Nat}

def trashed? (c : Call) : Option Value := if c.name = "lakeview.trash" then c.parts.head? else none

/-- The workspace does what it is asked for, or says that there is no such thing. -/
def Tolerated : Reply → Prop
  | .value _ => True
  | .failure e => isGone e = true

/-- The removal completes, it leaves the valid entries, and each dashboard of the others was moved to the trash once. -/
def Clears (valid : List String) (s : Session) : Prop :=
  ∃ s', (removeDeprecatedDashboards valid).exec s = (.ok (), s') ∧
    s'.dashboards = s.dashboards.filter (fun entry => valid.contains entry.1) ∧
    ∃ ids, s'.seen trashed? = s.seen trashed? ++ ids ∧
      ids.Perm ((s.dashboards.filter fun entry => !valid.contains entry.1).map Prod.snd)

/-! ### One step -/

private theorem exec_checkSize (h : s.dashboards.length = size) : (checkSize size).exec s = (.ok (), s) := by
  rw [checkSize, exec_bind_of_ok (exec_get s), h]
  simp

/-- A table whose size has changed is not gone through any further. -/
private theorem exec_eachDashboard_of_ne (h : s.dashboards.length ≠ size) (task : String → Value → Flow Unit)
    (entries : List (String × Value)) :
    (eachDashboard size task entries).exec s = (.error (.runtime "dictionary changed size during iteration"), s) := by
  have hcheck : (checkSize size).exec s = (.error (.runtime "dictionary changed size during iteration"), s) := by
    rw [checkSize, exec_bind_of_ok (exec_get s), if_pos (bne_iff_ne.2 h)]
    rfl
  cases entries with
  | nil => exact hcheck
  | cons entry rest => exact exec_bind_of_error hcheck

/-- A dashboard is taken out of the table and moved to the trash, whether it is still there or not. -/
private theorem exists_exec_removeDashboard (h : s.RepliesWith "lakeview.trash" Tolerated) (reference : String)
    (id : Value) : ∃ s', (removeDashboard reference id).exec s = (.ok (), s') ∧
      s'.dashboards = s.dashboards.filter (·.1 != reference) ∧ s'.seen trashed? = s.seen trashed? ++ [id] := by
  have hmodify : (modify fun s => { s with dashboards := s.dashboards.filter (·.1 != reference) } : Flow Unit).exec s =
    (.ok (), { s with dashboards := s.dashboards.filter (·.1 != reference) }) := rfl
  obtain ⟨reply, replies, hreply, hcall, -⟩ := exists_exec_call_of_repliesWith
    (s := { s with dashboards := s.dashboards.filter (·.1 != reference) }) ⟨h.shared, h.replies, h.given⟩ [id] []
  rw [removeDashboard, exec_bind_of_ok hmodify]
  cases reply with
  | value v => exact ⟨_, exec_recover_of_ok (exec_bind_of_ok hcall), rfl, List.filterMap_append⟩
  | failure e =>
    exact ⟨_, exec_recover_of_some (exec_bind_of_error hcall) (if_pos hreply), rfl, List.filterMap_append⟩

variable {reference : String}

private theorem exec_removeIfDeprecated_of_mem (h : reference ∈ valid) (id : Value) (s : Session) :
    (removeIfDeprecated valid reference id).exec s = (.ok (), s) := by
  rw [removeIfDeprecated, if_pos (List.contains_iff_mem.2 h)]
  rfl

/-! ### The whole table -/

/-- Nothing happens as long as the entries are valid. -/
private theorem exec_eachDashboard_append {before : List (String × Value)} (hsize : s.dashboards.length = size)
    (h : ∀ entry ∈ before, entry.1 ∈ valid) (behind : List (String × Value)) :
    (eachDashboard size (removeIfDeprecated valid) (before ++ behind)).exec s =
      (eachDashboard size (removeIfDeprecated valid) behind).exec s := by
  induction before with
  | nil => rfl
  | cons entry before ih =>
    have hentry := exec_removeIfDeprecated_of_mem (h entry List.mem_cons_self) entry.2 s
    rw [List.cons_append, eachDashboard, exec_bind_of_ok (exec_checkSize hsize), exec_bind_of_ok hentry]
    exact ih fun e he => h e (List.mem_cons_of_mem _ he)

/-- An entry that is not valid is removed, and with it the way through the table ends. -/
theorem exists_exec_eachDashboard_of_deprecated (h : s.RepliesWith "lakeview.trash" Tolerated)
    (hsize : s.dashboards.length = size) {id : Value} (hmem : (reference, id) ∈ s.dashboards)
    (hdeprecated : reference ∉ valid) (behind : List (String × Value)) :
    ∃ s', (eachDashboard size (removeIfDeprecated valid) ((reference, id) :: behind)).exec s =
        (.error (.runtime "dictionary changed size during iteration"), s') ∧
      s'.dashboards = s.dashboards.filter (·.1 != reference) ∧ s'.seen trashed? = s.seen trashed? ++ [id] := by
  obtain ⟨s', hremove, htable, hseen⟩ := exists_exec_removeDashboard h reference id
  have hentry : (removeIfDeprecated valid reference id).exec s = (.ok (), s') := by
    rwa [removeIfDeprecated, if_neg (mt List.contains_iff_mem.1 hdeprecated)]
  have hless : s'.dashboards.length < s.dashboards.length := by
    rw [htable]
    exact List.length_filter_lt_length_iff_exists.2 ⟨_, hmem, by simp⟩
  refine ⟨s', ?_, htable, hseen⟩
  rw [eachDashboard, exec_bind_of_ok (exec_checkSize hsize), exec_bind_of_ok hentry]
  exact exec_eachDashboard_of_ne (by omega) _ _

private theorem exec_removeDeprecatedDashboards (valid : List String) (s : Session) :
    (removeDeprecatedDashboards valid).exec s =
      (eachDashboard s.dashboards.length (removeIfDeprecated valid) s.dashboards).exec s := by
  rw [removeDeprecatedDashboards, exec_bind_of_ok (exec_get s)]

/-- A valid table is left as it is. -/
private theorem clears_of_valid (h : ∀ entry ∈ s.dashboards, entry.1 ∈ valid) : Clears valid s := by
  refine ⟨s, ?_, ?_, [], (List.append_nil _).symm, ?_⟩
  · have happend := exec_eachDashboard_append (s := s) rfl h []
    rw [List.append_nil] at happend
    rw [exec_removeDeprecatedDashboards, happend]
    exact exec_checkSize rfl
  · rw [List.filter_eq_self.2 fun entry he => List.contains_iff_mem.2 (h entry he)]
  · rw [List.filter_eq_nil_iff.2 fun entry he => by simpa using h entry he]
    exact List.Perm.nil

private theorem exists_exec_removeDeprecatedDashboards (h : s.RepliesWith "lakeview.trash" Tolerated)
    (hdistinct : (s.dashboards.map Prod.fst).Nodup) {before behind : List (String × Value)}
    {id : Value} (htable : s.dashboards = before ++ (reference, id) :: behind)
    (hbefore : ∀ entry ∈ before, entry.1 ∈ valid) (hdeprecated : reference ∉ valid) :
    ∃ s', (removeDeprecatedDashboards valid).exec s =
        (.error (.runtime "dictionary changed size during iteration"), s') ∧
      s'.dashboards = before ++ behind ∧ s'.seen trashed? = s.seen trashed? ++ [id] := by
  have hmem : (reference, id) ∈ s.dashboards := by rw [htable]; simp
  obtain ⟨s', hexec, hleft, hseen⟩ := exists_exec_eachDashboard_of_deprecated h rfl hmem hdeprecated behind
  refine ⟨s', ?_, ?_, hseen⟩
  · have happend := exec_eachDashboard_append (s := s) rfl hbefore ((reference, id) :: behind)
    rwa [← htable, hexec, ← exec_removeDeprecatedDashboards] at happend
  · -- no other entry has the reference, so that it alone is filtered out
    rw [htable, List.map_append, List.map_cons, List.nodup_middle, List.nodup_cons, ← List.map_append] at hdistinct
    have hothers : ∀ entry ∈ before ++ behind, (entry.1 != reference) = true := by
      intro entry he
      exact bne_iff_ne.2 fun heq => hdistinct.1 (List.mem_map.2 ⟨entry, he, heq⟩)
    rw [List.forall_mem_append] at hothers
    rw [hleft, htable, List.filter_append, List.filter_cons_of_neg (by simp), List.filter_eq_self.2 hothers.1,
      List.filter_eq_self.2 hothers.2]

/-- The dashboards are cleared exactly if none is to be removed.  Otherwise the first of those is removed, with a single
request to the workspace, and the failure leaves all that come behind it in the table. -/
theorem removeDeprecatedDashboards_clears_iff (h : s.RepliesWith "lakeview.trash" Tolerated)
    (hdistinct : (s.dashboards.map Prod.fst).Nodup) (valid : List String) :
    (Clears valid s ↔ ∀ entry ∈ s.dashboards, entry.1 ∈ valid) ∧
    ∀ before reference id behind, s.dashboards = before ++ (reference, id) :: behind →
      (∀ entry ∈ before, entry.1 ∈ valid) → reference ∉ valid →
      ∃ s', (removeDeprecatedDashboards valid).exec s =
          (.error (.runtime "dictionary changed size during iteration"), s') ∧
        s'.dashboards = before ++ behind ∧ s'.seen trashed? = s.seen trashed? ++ [id] := by
  refine ⟨⟨?_, clears_of_valid⟩, fun _ _ _ _ => exists_exec_removeDeprecatedDashboards h hdistinct⟩
  rintro ⟨s', hexec, -⟩
  cases hfirst : s.dashboards.find? fun entry => !valid.contains entry.1 with
  | none => simpa using hfirst
  | some entry =>
    obtain ⟨hentry, before, behind, htable, hbefore⟩ := List.find?_eq_some_iff_append.1 hfirst
    have hdeprecated : entry.1 ∉ valid := by simpa using hentry
    have hvalid : ∀ e ∈ before, e.1 ∈ valid := by simpa using hbefore
    obtain ⟨t, hfails, -⟩ := exists_exec_removeDeprecatedDashboards h hdistinct htable hvalid hdeprecated
    rw [hexec] at hfails
    cases hfails

def threeDashboards : Session where
  dashboards := [("sales", .text "1"), ("stock", .text "2"), ("staff", .text "3")]
  replies := [("lakeview.trash", [.failure (.remote "NotFound" "gone")])]

private theorem threeDashboards_repliesWith : threeDashboards.RepliesWith "lakeview.trash" Tolerated where
  shared := rfl
  replies := by
    intro replies h reply hreply
    cases h
    cases List.mem_singleton.1 hreply
    rfl
  given := fun _ _ => trivial

theorem removeDeprecatedDashboards_clears_iff_three :
    threeDashboards.RepliesWith "lakeview.trash" Tolerated ∧ (threeDashboards.dashboards.map Prod.fst).Nodup ∧
    ∃ s', (removeDeprecatedDashboards ["sales"]).exec threeDashboards =
        (.error (.runtime "dictionary changed size during iteration"), s') ∧
      s'.dashboards = [("sales", .text "1"), ("staff", .text "3")] ∧ s'.seen trashed? = [.text "2"] := by
  have hdistinct : (threeDashboards.dashboards.map Prod.fst).Nodup := by decide
  refine ⟨threeDashboards_repliesWith, hdistinct, ?_⟩
  exact (removeDeprecatedDashboards_clears_iff threeDashboards_repliesWith hdistinct ["sales"]).2
    [("sales", .text "1")] "stock" (.text "2") [("staff", .text "3")] rfl (by simp) (by decide)

/-- Of two dashboards that are not valid one stays in the table, and the workspace is not asked to remove it. -/
theorem not_clears_threeDashboards : ¬ Clears ["sales"] threeDashboards := by
  rintro ⟨s', hexec, -⟩
  cases hexec

end WarehouseMigration.Deployment
