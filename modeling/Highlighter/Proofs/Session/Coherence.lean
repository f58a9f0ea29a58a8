import Highlighter.Proofs.Session.FullPass
import Highlighter.Proofs.Session.Rebuilding

/-!
# Styles along a run

However a surface is edited and its session is called, a character is covered by one tag at most,
and every tag has the directive of its name under the current theme. `Session.Coherent` adds to
this what carries it from one call to the next: a kind whose style has been looked up has a tag if
it has a style. So the style of a character is that of its kind
(`Session.styles_coherent_along_run`).
-/

namespace Highlighter

open Token Surface

namespace Surface

/-- Each tag by its name and its directive. -/
def looks (surface : Surface) : List (String × Option StyleDirective) :=
  surface.tags.map fun tag => (tag.name, tag.directive)

/-- No character is covered by two tags. -/
def SinglyTagged (surface : Surface) : Prop :=
  ∀ index, (surface.tagsAt (surface.positionOf index)).length ≤ 1

variable {before after : Surface}

/-- On a valid surface the tags of a place are counted by their marks. -/
theorem Valid.length_tagsAt (valid : after.Valid) (position : Position) :
    (after.tagsAt position).length = (after.marksAt position).length := by
  rw [tagsAt_eq_map_marksAt valid.separated, List.length_map]

/-- At most one range reaches across a place. -/
theorem Valid.length_marksAcross_le (valid : before.Valid) (single : before.SinglyTagged)
    (place : Nat) : (before.marksAcross place).length ≤ 1 := by
  have here := single place
  rw [valid.length_tagsAt, marksAt_eq_map_holdersAt, List.length_map] at here
  rw [valid.marksAcross_eq, List.length_map]
  exact Nat.le_trans (List.length_filter_le _ _) here

/-- An edit that carries the tags along covers no character twice. -/
theorem Carried.singlyTagged {place removed : Nat} {inserted : Text}
    (carried : Carried before after place removed inserted) (valid : before.Valid)
    (afterValid : after.Valid) (single : before.SinglyTagged) : after.SinglyTagged := by
  intro index
  have old (index : Nat) : (before.marksAt (before.positionOf index)).length ≤ 1 := by
    rw [← valid.length_tagsAt]
    exact single index
  rw [afterValid.length_tagsAt, carried.marksAt_positionOf]
  split
  next front => exact old index
  next =>
    split
    next middle =>
      -- New characters share what reaches across the place, and that is held there already.
      exact valid.length_marksAcross_le single place
    next behind => exact old _

/-- A surface without ranges covers nothing. -/
theorem singlyTagged_setContent (surface : Surface) (text : Text) :
    (surface.setContent text).SinglyTagged := by
  intro index
  have covered (position : Position) : (surface.setContent text).tagsAt position = [] := by
    rw [tagsAt, List.map_eq_nil_iff, List.filter_eq_nil_iff]
    intro emptied member
    obtain ⟨tag, -, rfl⟩ := List.mem_map.mp member
    exact Bool.false_ne_true
  rw [covered]
  exact Nat.zero_le _

/-- Building all tags anew covers no character twice. -/
theorem Rebuilt.singlyTagged {tokens : List Token} (rebuilt : Rebuilt before after tokens) :
    after.SinglyTagged := by
  intro index
  obtain ⟨stamp, same⟩ := rebuilt.holders index
  rw [rebuilt.valid.length_tagsAt, positionOf_congr rebuilt.lines, marksAt_eq_map_holdersAt, same,
    List.length_map]
  exact Option.length_toList_le

end Surface

namespace Session

variable {σ : Type}

/-- Tagging a block of lines anew covers no character twice. -/
theorem Retagged.singlyTagged {before after : Surface} {first last : Nat} {tokens : List Token}
    (retagged : Retagged before after first last tokens) (valid : before.Valid)
    (block : before.LineBlock first last) (single : before.SinglyTagged) : after.SinglyTagged := by
  intro index
  rw [positionOf_congr retagged.lines]
  by_cases inside : before.offsetOf (.lineStart first) ≤ index ∧
      index < before.offsetOf (before.lineEnd last)
  · obtain ⟨skipped, rfl⟩ := Nat.exists_eq_add_of_le inside.1
    have length := length_blockText valid.toLined block
    rw [retagged.valid.length_tagsAt]
    by_cases laid : skipped < divergence (blockText before first last) tokens
    · obtain ⟨start, token, stamp, -, -, marks⟩ := retagged.tagged laid
      exact Nat.le_of_eq (congrArg List.length marks)
    · have marks := retagged.untagged (Nat.not_lt.mp laid) (by omega)
      exact Nat.le_trans (Nat.le_of_eq (congrArg List.length marks)) (Nat.zero_le _)
  · rw [retagged.tagsAt_outside valid block (by omega)]
    exact single index

/-! ### Directives in step with the theme -/

/-- The directives of tags and the kinds that have been looked up are in step with a theme. -/
structure Styled (theme : Theme) (looks : List (String × Option StyleDirective))
    (configured : List String) : Prop where
  /-- A tag has the directive of its name. -/
  directives : ∀ look ∈ looks, look.2 = theme.directive? ⟨look.1⟩
  /-- A kind that has been looked up has a tag if it has a directive. -/
  tagged : ∀ name ∈ configured, theme.directive? ⟨name⟩ ≠ none → name ∈ looks.map (·.1)

/-- The directives of the session are in step with its theme. -/
def InStep (session : Session σ) : Prop :=
  Styled session.theme session.surface.looks session.configured

/-- The first parts of the looks are the names of the tags. -/
theorem map_fst_looks (surface : Surface) :
    surface.looks.map (·.1) = surface.tags.map (·.name) := by
  simp [looks, Function.comp_def]

/-- Giving a tag the directive of its name looks up its style. -/
theorem Styled.tagConfigure {theme : Theme} {surface : Surface} {configured : List String}
    (styled : Styled theme surface.looks configured) {kind : TokenKind}
    {directive : StyleDirective} (style : theme.directive? kind = some directive) :
    Styled theme (surface.tagConfigure kind.name directive).looks (kind.name :: configured) where
  directives := by
    intro look member
    obtain ⟨tag, held, rfl⟩ := List.mem_map.mp member
    rcases mem_updateTag held with old | ⟨changed, -, named, rfl⟩
    · exact styled.directives _ (List.mem_map_of_mem old)
    · dsimp only
      rw [named]
      exact style.symm
  tagged := by
    intro name member some
    have names : (surface.tagConfigure kind.name directive).tags.map (·.name) = _ :=
      map_name_updateTag fun _ => rfl
    rw [map_fst_looks, names]
    rcases List.mem_cons.mp member with rfl | old
    · split
      next present => exact present
      next => simp
    · have present := map_fst_looks surface ▸ styled.tagged name old some
      split
      next => exact present
      next => exact List.mem_append_left _ present

/-- A kind without a directive is looked up without any effect. -/
theorem Styled.cons {theme : Theme} {looks : List (String × Option StyleDirective)}
    {configured : List String} (styled : Styled theme looks configured) {kind : TokenKind}
    (style : theme.directive? kind = none) : Styled theme looks (kind.name :: configured) where
  directives := styled.directives
  tagged := by
    intro name member some
    rcases List.mem_cons.mp member with rfl | old
    · exact absurd style some
    · exact styled.tagged name old some

/-- Adding a tag whose kind has been looked up keeps the directives in step. A tag that is made by
the addition has no directive, as its kind has none. -/
theorem Styled.tagAdd {theme : Theme} {surface : Surface} {configured : List String}
    (styled : Styled theme surface.looks configured) {name : String} (known : name ∈ configured)
    (start stop : Position) :
    Styled theme (surface.tagAdd name start stop).looks configured := by
  have looks : (surface.tagAdd name start stop).looks = _ :=
    map_updateTag (by
      intro tag
      split <;> rfl)
  rw [looks]
  split
  next => exact styled
  next absent =>
    -- A kind with a directive got its tag when it was looked up.
    have unstyled : theme.directive? ⟨name⟩ = none := by
      cases style : theme.directive? ⟨name⟩ with
      | none => rfl
      | some directive =>
          have present := styled.tagged name known (by simp [style])
          exact absurd (map_fst_looks surface ▸ present) absent
    refine { directives := ?_, tagged := ?_ }
    · intro look member
      rcases List.mem_append.mp member with old | new
      · exact styled.directives look old
      · rw [List.mem_singleton.mp new]
        exact unstyled.symm
    · intro other member some
      rw [List.map_append]
      exact List.mem_append_left _ (styled.tagged other member some)

/-- Looking up the style of a kind keeps the session in step. -/
theorem InStep.ensureConfigured {session : Session σ} (inStep : session.InStep)
    (kind : TokenKind) :
    (session.ensureConfigured kind).InStep ∧
      kind.name ∈ (session.ensureConfigured kind).configured := by
  rw [Session.ensureConfigured]
  split
  next known => exact ⟨inStep, by simpa using known⟩
  next unknown =>
    refine ⟨?_, List.mem_cons_self⟩
    cases style : session.theme.directive? kind with
    | none => exact inStep.cons style
    | some directive => exact inStep.tagConfigure style

/-- Tagging a span keeps the session in step. -/
theorem InStep.tagSpan {session : Session σ} (inStep : session.InStep) (span : Span) :
    (session.tagSpan span).InStep := by
  obtain ⟨configured, known⟩ := inStep.ensureConfigured span.kind
  exact configured.tagAdd known span.start span.stop

/-- Tagging spans keeps the session in step. -/
theorem InStep.tagSpans {session : Session σ} (inStep : session.InStep) (spans : List Span) :
    (session.tagSpans spans).InStep := by
  induction spans generalizing session with
  | nil => exact inStep
  | cons span others inductionHypothesis => exact inductionHypothesis (inStep.tagSpan span)

/-- Clearing a part leaves names and directives as they are. -/
theorem looks_clearRange (surface : Surface) (start stop : Position) :
    (clearRange surface start stop).looks = surface.looks := by
  rw [clearRange]
  generalize surface.tagNames = names
  induction names generalizing surface with
  | nil => rfl
  | cons name others inductionHypothesis =>
      rw [List.foldl_cons, inductionHypothesis, looks, looks, tagRemove, List.map_map]
      apply List.map_congr_left
      intro tag _
      rw [Function.comp_apply]
      split <;> rfl

/-- The pass after an edit keeps the session in step. -/
theorem InStep.onEdit {session : Session σ} (inStep : session.InStep) (cursor : Position) :
    (session.onEdit cursor).1.InStep := by
  rw [Session.onEdit]
  split
  next => exact inStep
  next =>
    obtain ⟨first, last⟩ := session.window cursor
    have cleared : InStep { session with
        surface :=
          clearRange session.surface (.lineStart first) (session.surface.lineEnd last) } := by
      rw [InStep, looks_clearRange]
      exact inStep
    exact cleared.tagSpans _

/-- A full pass brings the session in step, whatever it was before. -/
theorem inStep_fullPass (session : Session σ) (lined : session.surface.Lined) :
    session.fullPass.1.InStep := by
  obtain ⟨mutations, same⟩ := session.exists_fullPass_eq_built lined
  have looks : session.fullPass.1.surface.looks =
      (builtNames session.wholeMapping.spans).map fun name =>
        (name, session.theme.directive? ⟨name⟩) := by
    rw [Surface.looks, session.tags_fullPass lined, builtTags, List.map_map]
    rfl
  have fields : session.fullPass.1.theme = session.theme ∧
      session.fullPass.1.configured = lookedUpFor session.wholeMapping.spans := by
    rw [same]
    exact ⟨rfl, rfl⟩
  rw [InStep, looks, fields.1, fields.2]
  refine { directives := ?_, tagged := ?_ }
  · intro look member
    obtain ⟨name, -, rfl⟩ := List.mem_map.mp member
    rfl
  · intro name member _
    simpa using mem_lookedUpFor.mp member

/-! ### Calls -/

/-- A call that edits the surface of a session or that is made on the session itself. -/
inductive Call where
  | insert (position : Position) (inserted : Text)
  | delete (start stop : Position)
  | setContent (replacement : Text)
  | setCursor (position : Position)
  | onEdit (cursor : Position)
  /-- A full pass, the first one or a later one. -/
  | fullPass
  | switchLanguage (id : String)
  | switchTheme (files : FileTree) (source : ThemeSource)
  | setScope (scope : EditScope)

/-- The session after a call. A switch that fails leaves it as it was. -/
def perform [SettingsStore σ] (session : Session σ) : Call → Session σ
  | .insert position inserted =>
    { session with surface := session.surface.insert position inserted }
  | .delete start stop => { session with surface := session.surface.delete start stop }
  | .setContent replacement =>
    { session with surface := session.surface.setContent replacement }
  | .setCursor position => { session with surface := session.surface.setCursor position }
  | .onEdit cursor => (session.onEdit cursor).1
  | .fullPass => session.fullPass.1
  | .switchLanguage id =>
    match session.switchLanguage id with
    | .ok outcome => outcome.1
    | .error _ => session
  | .switchTheme files source =>
    match session.switchTheme files source with
    | .ok outcome => outcome.1
    | .error _ => session
  | .setScope scope => { session with scope }

/-- The session after a sequence of calls. -/
def run [SettingsStore σ] (session : Session σ) (calls : List Call) : Session σ :=
  calls.foldl perform session

/-- What calls keep of a session. -/
structure Coherent (session : Session σ) : Prop where
  valid : session.surface.Valid
  single : session.surface.SinglyTagged
  inStep : session.InStep

/-- A session that is opened on a surface without tags is coherent. -/
theorem coherent_start [SettingsStore σ] {surface : Surface} {registry : Registry} {store : σ}
    {language : String} {scope : EditScope} {session : Session σ}
    (started : Session.start surface registry store language scope = .ok session)
    (valid : surface.Valid) (untagged : surface.tags = []) : session.Coherent := by
  rw [Session.start] at started
  cases loaded : SettingsStore.load store with
  | error cause => simp [loaded, Bind.bind, Except.bind] at started
  | ok settings =>
      cases selected : registry.select language with
      | error cause => simp [loaded, selected, Bind.bind, Except.bind] at started
      | ok tokenizer =>
          simp only [loaded, selected, Bind.bind, Except.bind, Pure.pure, Except.pure,
            Except.ok.injEq] at started
          subst started
          refine { valid := valid, single := ?_, inStep := ?_ }
          · intro index
            simp [tagsAt, untagged]
          · refine { directives := ?_, tagged := ?_ }
            · simp [looks, untagged]
            · exact fun _ member => absurd member List.not_mem_nil

/-- A session whose surface was edited is coherent when the edit covers no character twice and
leaves names and directives as they are. -/
theorem Coherent.edited {session : Session σ} (coherent : session.Coherent) {surface : Surface}
    (valid : surface.Valid) (single : surface.SinglyTagged)
    (looks : surface.looks = session.surface.looks) : Coherent { session with surface } where
  valid := valid
  single := single
  inStep := by
    rw [InStep, looks]
    exact coherent.inStep

/-- A full pass makes a session with a valid surface coherent. -/
theorem coherent_fullPass (session : Session σ) (valid : session.surface.Valid) :
    session.fullPass.1.Coherent where
  valid := (rebuilt_fullPass session valid).valid
  single := (rebuilt_fullPass session valid).singlyTagged
  inStep := session.inStep_fullPass valid.toLined

/-- The pass after an edit keeps a session coherent. -/
theorem Coherent.onEdit {session : Session σ} (coherent : session.Coherent) (cursor : Position) :
    (session.onEdit cursor).1.Coherent := by
  by_cases same : session.surface.content = session.snapshot
  · rw [Session.onEdit, if_pos same]
    exact coherent
  · have retagged := retagged_onEdit session coherent.valid same cursor
    have block := (window_covers session coherent.valid.toLined cursor).toLineBlock
    exact {
      valid := retagged.valid
      single := retagged.singlyTagged coherent.valid block coherent.single
      inStep := coherent.inStep.onEdit cursor }

/-- A pass keeps a session coherent. -/
theorem Coherent.pass [SettingsStore σ] {session : Session σ} (coherent : session.Coherent)
    {outcome : Session σ × Report} (pass : Pass session outcome) : outcome.1.Coherent := by
  cases pass with
  | full => exact session.coherent_fullPass coherent.valid
  | edit cursor => exact coherent.onEdit cursor
  | language switched =>
      obtain ⟨tokenizer, -, rfl⟩ := switchLanguage_eq_ok_iff.mp switched
      exact coherent_fullPass _ coherent.valid
  | theme switched =>
      obtain ⟨theme, store, -, -, rfl⟩ := switchTheme_eq_ok_iff.mp switched
      exact coherent_fullPass _ coherent.valid

/-- A call keeps a session coherent. -/
theorem Coherent.perform [SettingsStore σ] {session : Session σ} (coherent : session.Coherent)
    (call : Call) : (session.perform call).Coherent := by
  have valid := coherent.valid
  cases call with
  | insert position inserted =>
      have carried := valid.carried_insert position inserted
      have edited := valid.insert position inserted
      exact coherent.edited edited (carried.singlyTagged valid edited coherent.single) carried.names
  | delete start stop =>
      by_cases ordered : session.surface.offsetOf start < session.surface.offsetOf stop
      · have carried := valid.carried_delete ordered
        have edited := valid.delete start stop
        exact coherent.edited edited (carried.singlyTagged valid edited coherent.single)
          carried.names
      · have same : session.surface.delete start stop = session.surface := by
          rw [Surface.delete, if_neg ordered]
        rw [Session.perform, same]
        exact coherent
  | setContent replacement =>
      refine coherent.edited (valid.setContent replacement)
        (singlyTagged_setContent _ replacement) ?_
      simp [looks, setContent]
  | setCursor position =>
      exact coherent.edited (valid.setCursor position) coherent.single rfl
  | onEdit cursor => exact coherent.onEdit cursor
  | fullPass => exact session.coherent_fullPass valid
  | switchLanguage id =>
      rw [Session.perform]
      split
      next outcome switched => exact coherent.pass (.language switched)
      next => exact coherent
  | switchTheme files source =>
      rw [Session.perform]
      split
      next outcome switched => exact coherent.pass (.theme switched)
      next => exact coherent
  | setScope scope => exact ⟨valid, coherent.single, coherent.inStep⟩

/-- A sequence of calls keeps a session coherent. -/
theorem Coherent.run [SettingsStore σ] {session : Session σ} (coherent : session.Coherent)
    (calls : List Call) : (session.run calls).Coherent := by
  induction calls generalizing session with
  | nil => exact coherent
  | cons call later inductionHypothesis => exact inductionHypothesis (coherent.perform call)

/-! ### The style of a character -/

/-- Where at most one name is listed, at most one tag covers. -/
theorem exists_covering_eq {surface : Surface} {position : Position}
    (single : (surface.tagsAt position).length ≤ 1) :
    ∃ covering : Option Tag, surface.tags.filter (·.covers position) = covering.toList := by
  rw [tagsAt, List.length_map] at single
  cases shape : surface.tags.filter (·.covers position) with
  | nil => exact ⟨none, rfl⟩
  | cons tag others =>
      rw [shape, List.length_cons] at single
      have alone : others = [] := List.eq_nil_of_length_eq_zero (by omega)
      exact ⟨some tag, by rw [alone]; rfl⟩

/-- Where one tag at most covers, the style is its directive. -/
theorem styleAt_eq {surface : Surface} {theme : Theme} {position : Position}
    (single : (surface.tagsAt position).length ≤ 1)
    (directives : ∀ tag ∈ surface.tags, tag.directive = theme.directive? ⟨tag.name⟩) :
    surface.styleAt position = ((surface.tagsAt position).head?.bind fun name =>
      theme.directive? ⟨name⟩).getD .empty := by
  obtain ⟨covering, shape⟩ := exists_covering_eq single
  rw [styleAt, tagsAt, shape]
  cases covering with
  | none => rfl
  | some tag =>
      have member : tag ∈ surface.tags.filter (·.covers position) := by
        rw [shape]
        exact List.mem_cons_self
      have directive := directives tag (List.mem_of_mem_filter member)
      cases style : theme.directive? ⟨tag.name⟩ with
      | none => simp [directive, style]
      | some own => simp [directive, style, StyleDirective.mergedWith, StyleDirective.empty]

/-- Where one tag at most covers, the style does not depend on the order of the tags. -/
theorem styleAt_of_perm {surface : Surface} {position : Position}
    (single : (surface.tagsAt position).length ≤ 1) {tags : List Tag}
    (reordered : tags.Perm surface.tags) :
    Surface.styleAt { surface with tags } position = surface.styleAt position := by
  obtain ⟨covering, shape⟩ := exists_covering_eq single
  have same : tags.filter (·.covers position) = covering.toList := by
    have permuted := reordered.filter (·.covers position)
    rw [shape] at permuted
    cases covering with
    | none => exact List.perm_nil.mp permuted
    | some tag => exact List.perm_singleton.mp permuted
  rw [styleAt, styleAt, same, shape]

/-- Whatever calls follow on a session that was opened on a surface without tags, no character is
covered by two tags, every tag has the directive of its name under the theme of the session, and so
the style of a character is the directive of the one kind that covers it, in whichever order the
tags were made. -/
theorem styles_coherent_along_run [SettingsStore σ] {surface : Surface} {registry : Registry}
    {store : σ} {language : String} {scope : EditScope} {session : Session σ}
    (started : Session.start surface registry store language scope = .ok session)
    (valid : surface.Valid) (untagged : surface.tags = []) (calls : List Call) :
    let after := session.run calls
    (∀ index, (after.surface.tagsAt (after.surface.positionOf index)).length ≤ 1) ∧
      (∀ tag ∈ after.surface.tags, tag.directive = after.theme.directive? ⟨tag.name⟩) ∧
      ∀ index,
        let place := after.surface.positionOf index
        after.surface.styleAt place = ((after.surface.tagsAt place).head?.bind fun name =>
            after.theme.directive? ⟨name⟩).getD .empty ∧
          ∀ tags, tags.Perm after.surface.tags →
            Surface.styleAt { after.surface with tags } place = after.surface.styleAt place := by
  have coherent := (coherent_start started valid untagged).run calls
  have directives : ∀ tag ∈ (session.run calls).surface.tags,
      tag.directive = (session.run calls).theme.directive? ⟨tag.name⟩ :=
    fun tag member => coherent.inStep.directives _ (List.mem_map_of_mem member)
  refine ⟨coherent.single, directives, ?_⟩
  intro index
  exact ⟨styleAt_eq (coherent.single index) directives,
    fun tags reordered => styleAt_of_perm (coherent.single index) reordered⟩

/-- A tokenizer that takes each text but its last character for a keyword. -/
def keywords : Tokenizer where
  name := "Keywords"
  lex text := [⟨⟨"Keyword.Odd"⟩, text.dropLast⟩]

/-- A run with passes that are not complete, an insertion into a range and switches that fail. -/
theorem styles_coherent_along_run_of_keywords :
    let registry : Registry := { tokenizers := [("keywords", keywords), ("text", .plainText)] }
    let calls : List Call :=
      [.onEdit ⟨1, 0⟩, .switchLanguage "keywords", .insert ⟨1, 1⟩ ['x', '\n'], .onEdit ⟨2, 0⟩,
        .switchLanguage "none", .switchTheme {} (.inline ['?']), .setScope .cursorLine,
        .delete ⟨1, 0⟩ ⟨1, 1⟩, .onEdit ⟨1, 0⟩]
    ∃ session : Session MemoryStore,
      Session.start (.ofText ['a', 'b', 'c']) registry {} = .ok session ∧
        let after := (session.run calls).surface
        after.SinglyTagged ∧ after.content = ['x', '\n', 'b', 'c'] ∧
          after.tagsAt (after.positionOf 0) = [] ∧
          after.tagsAt (after.positionOf 2) = ["Keyword.Odd"] ∧
          after.styleAt (after.positionOf 2) = { foreground := some Theme.dark.keyword } := by
  intro registry calls
  have started : Session.start (.ofText ['a', 'b', 'c']) registry ({} : MemoryStore) = .ok _ := rfl
  obtain ⟨single, -, styles⟩ := styles_coherent_along_run started (.ofText _) rfl calls
  refine ⟨_, started, single, ?_⟩
  rw [(styles 2).1]
  decide +kernel

end Session

end Highlighter
