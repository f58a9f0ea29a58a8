import Highlighter.Proofs.Session.Completion
import Highlighter.Proofs.Theme.Table
import Mathlib.Data.List.Induction

/-!
# What a full pass builds

The tags after a full pass are a function of the text, the theme and the tokenizer: whatever was
tagged before, `Session.builtTags` says which tags there are, in which order, with which ranges and
directives (`Session.fullPass_forgets`). So a second full pass changes nothing but the stamps.
-/

namespace Highlighter

open Token Surface

/-! ### Spans that are laid on a text -/

namespace Surface

/-- Spans that are not empty lie in the text, one behind the other. -/
structure Laid (surface : Surface) (spans : List Span) : Prop where
  inside : ∀ span ∈ spans, surface.Inside span.start ∧ surface.Inside span.stop
  nonempty : ∀ span ∈ spans, span.start < span.stop
  ordered : spans.Pairwise (·.stop ≤ ·.start)

variable {surface : Surface}

/-- Spans of a stream start at or behind the place from which the stream is laid. -/
theorem le_start_of_mem_spansFrom {position : Position} {tokens : List Token} {span : Span}
    (member : span ∈ Mapping.spansFrom position tokens) : position ≤ span.start := by
  induction tokens generalizing position with
  | nil => exact absurd member List.not_mem_nil
  | cons token others inductionHypothesis =>
      rw [Mapping.spansFrom] at member
      split at member
      next => exact inductionHypothesis member
      next more =>
        rcases List.mem_cons.mp member with rfl | later
        · exact Std.le_refl _
        · have walked := position.lt_advancedBy (mt List.isEmpty_iff.mpr more)
          exact Std.le_trans (Std.le_of_lt walked) (inductionHypothesis later)

/-- The spans of a stream that follows a place of the text are laid on the text. -/
theorem laid_spansFrom (lined : surface.Lined) {offset : Nat} {tokens : List Token}
    (follows : concat tokens <+: surface.content.drop offset) :
    surface.Laid (Mapping.spansFrom (surface.positionOf offset) tokens) := by
  induction tokens generalizing offset with
  | nil => exact ⟨nofun, nofun, .nil⟩
  | cons token others inductionHypothesis =>
      rw [concat_cons] at follows
      have walk := advancedBy_positionOf lined ((List.prefix_append _ _).trans follows)
      have later := inductionHypothesis (isFront_drop_of_append follows)
      rw [Mapping.spansFrom]
      split
      next empty => simpa [List.isEmpty_iff.mp empty] using later
      next more =>
        have first := Position.lt_advancedBy (surface.positionOf offset)
          (mt List.isEmpty_iff.mpr more)
        rw [walk] at first ⊢
        exact {
          inside := List.forall_mem_cons.mpr
            ⟨⟨inside_positionOf lined.nonempty _, inside_positionOf lined.nonempty _⟩,
              later.inside⟩
          nonempty := List.forall_mem_cons.mpr ⟨first, later.nonempty⟩
          ordered := List.pairwise_cons.mpr
            ⟨fun _ member => le_start_of_mem_spansFrom member, later.ordered⟩ }

/-- The spans of the whole text are laid on it. -/
theorem laid_ofTokens (lined : surface.Lined) (tokens : List Token) :
    surface.Laid (Mapping.ofTokens .start surface.content tokens).spans := by
  rw [Mapping.ofTokens_eq, ← positionOf_zero lined]
  apply laid_spansFrom lined
  rw [List.drop_zero]
  exact concat_agreeing_isFront _ _

/-- The spans before the last one end before it starts. -/
theorem Laid.stop_le_start {spans : List Span} {last : Span}
    (laid : surface.Laid (spans ++ [last])) : ∀ span ∈ spans, span.stop ≤ last.start := by
  intro span member
  exact (List.pairwise_append.mp laid.ordered).2.2 span member last List.mem_cons_self

/-- The spans before the last one are laid. -/
theorem Laid.before {spans : List Span} {last : Span} (laid : surface.Laid (spans ++ [last])) :
    surface.Laid spans where
  inside span member := laid.inside span (List.mem_append_left _ member)
  nonempty span member := laid.nonempty span (List.mem_append_left _ member)
  ordered := (List.pairwise_append.mp laid.ordered).1

end Surface

/-! ### The tags of spans -/

namespace Session

/-- The kinds of spans that are not in the style table, in the order in which they appear
first. -/
def laterKinds (spans : List Span) : List String :=
  ((spans.map (·.kind.name)).filter (· ∉ StyleTable.kinds)).eraseDups

/-- The names of the tags for spans: the kinds of the style table, and the other kinds. -/
def builtNames (spans : List Span) : List String :=
  StyleTable.kinds ++ laterKinds spans

/-- The ranges of the spans of one kind, one for each of them. Every span uses up a stamp, the
first one the stamp that is given. -/
def builtRanges (stamp : Nat) (spans : List Span) (name : String) : List TagRange :=
  (spans.zipIdx stamp).filterMap fun (span, stamp) =>
    if span.kind.name = name then some ⟨span.start, span.stop, stamp⟩ else none

/-- The tag of one kind. -/
def builtTag (theme : Theme) (stamp : Nat) (spans : List Span) (name : String) : Tag where
  name := name
  directive := theme.directive? ⟨name⟩
  ranges := builtRanges stamp spans name

/-- The tags for spans. -/
def builtTags (theme : Theme) (stamp : Nat) (spans : List Span) : List Tag :=
  (builtNames spans).map (builtTag theme stamp spans)

variable {spans : List Span} {span : Span}

/-- Of a list that grows by one element, each element still counts where it appears first. -/
theorem eraseDups_append_singleton {α : Type} [DecidableEq α] (list : List α) (last : α) :
    (list ++ [last]).eraseDups =
      if last ∈ list then list.eraseDups else list.eraseDups ++ [last] := by
  rw [List.eraseDups_append]
  split
  next seen => simp [List.removeAll, seen]
  next new => simp [List.removeAll, new, List.eraseDups_cons]

/-- A kind that the style table does not hold is appended when it appears first. -/
theorem laterKinds_append (spans : List Span) (span : Span) :
    laterKinds (spans ++ [span]) =
      if span.kind.name ∈ builtNames spans then laterKinds spans
      else laterKinds spans ++ [span.kind.name] := by
  rw [laterKinds, List.map_append, List.filter_append]
  by_cases styled : span.kind.name ∈ StyleTable.kinds
  · simp [builtNames, laterKinds, styled]
  · have later : [span].map (·.kind.name) = [span.kind.name] := rfl
    have listed : span.kind.name ∈ builtNames spans ↔
        span.kind.name ∈ (spans.map (·.kind.name)).filter (· ∉ StyleTable.kinds) := by
      simp [builtNames, laterKinds, styled]
    rw [later, List.filter_cons_of_pos (by simpa using styled), List.filter_nil,
      eraseDups_append_singleton, ← laterKinds]
    simp only [listed]

/-- A kind is appended to the names when it appears first. -/
theorem builtNames_append (spans : List Span) (span : Span) :
    builtNames (spans ++ [span]) =
      if span.kind.name ∈ builtNames spans then builtNames spans
      else builtNames spans ++ [span.kind.name] := by
  rw [builtNames, laterKinds_append, builtNames]
  split
  next => rfl
  next => rw [List.append_assoc]

/-- No name is listed twice. -/
theorem nodup_builtNames (spans : List Span) : (builtNames spans).Nodup := by
  induction spans using List.reverseRecOn with
  | nil => simpa [builtNames, laterKinds] using StyleTable.nodup_kinds
  | append_singleton spans span inductionHypothesis =>
      rw [builtNames_append]
      split
      next => exact inductionHypothesis
      next new =>
        rw [← List.concat_eq_append]
        exact inductionHypothesis.concat new

/-- The kinds of the spans are listed. -/
theorem kind_mem_builtNames (member : span ∈ spans) : span.kind.name ∈ builtNames spans := by
  rw [builtNames, List.mem_append]
  by_cases styled : span.kind.name ∈ StyleTable.kinds
  · exact .inl styled
  · refine .inr (List.mem_eraseDups.mpr (List.mem_filter.mpr ?_))
    exact ⟨List.mem_map_of_mem member, decide_eq_true styled⟩

/-- A further span adds its range to the ranges of its kind. -/
theorem builtRanges_append (stamp : Nat) (spans : List Span) (span : Span) (name : String) :
    builtRanges stamp (spans ++ [span]) name =
      if name = span.kind.name then
        builtRanges stamp spans name ++ [⟨span.start, span.stop, stamp + spans.length⟩]
      else builtRanges stamp spans name := by
  rw [builtRanges, List.zipIdx_append, List.filterMap_append, ← builtRanges]
  split
  next same => simp [same]
  next other => simp [Ne.symm other]

/-- The ranges of a kind are those of spans. -/
theorem exists_span_of_mem_builtRanges {stamp : Nat} {name : String} {range : TagRange}
    (member : range ∈ builtRanges stamp spans name) :
    ∃ span ∈ spans, span.kind.name = name ∧ range.start = span.start ∧ range.stop = span.stop := by
  obtain ⟨⟨span, stamp⟩, listed, made⟩ := List.mem_filterMap.mp member
  obtain ⟨same, shape⟩ := Option.ite_none_right_eq_some.mp made
  obtain rfl := Option.some.inj shape
  exact ⟨span, List.fst_mem_of_mem_zipIdx listed, same, rfl, rfl⟩

/-- A kind that no span has is built without ranges. -/
theorem builtTag_of_new {name : String} (theme : Theme) (stamp : Nat)
    (new : name ∉ builtNames spans) :
    builtTag theme stamp spans name = { name, directive := theme.directive? ⟨name⟩ } := by
  have none : builtRanges stamp spans name = [] := by
    refine List.eq_nil_iff_forall_not_mem.mpr fun range member => ?_
    obtain ⟨span, held, rfl, -⟩ := exists_span_of_mem_builtRanges member
    exact new (kind_mem_builtNames held)
  rw [builtTag, none]

/-- A further span behind the others adds its range to the tag of its kind. -/
theorem builtTag_append (theme : Theme) (stamp : Nat) {spans : List Span} {span : Span}
    (behind : ∀ other ∈ spans, other.stop ≤ span.start) (name : String) :
    builtTag theme stamp (spans ++ [span]) name =
      if name = span.kind.name then
        (builtTag theme stamp spans name).add ⟨span.start, span.stop, stamp + spans.length⟩
      else builtTag theme stamp spans name := by
  rw [builtTag, builtRanges_append]
  split
  next =>
    have before : ∀ range ∈ builtRanges stamp spans name, range.stop ≤ span.start := by
      intro range member
      obtain ⟨other, held, -, -, stop⟩ := exists_span_of_mem_builtRanges member
      exact stop ▸ behind other held
    rw [Tag.add, builtTag, Tag.addRange_of_behind before]
  next => rfl

/-- The names of the built tags. -/
theorem map_name_builtTags (theme : Theme) (stamp : Nat) (spans : List Span) :
    (builtTags theme stamp spans).map (·.name) = builtNames spans := by
  simp [builtTags, builtTag, Function.comp_def]

/-- Adding the range of a further span to a kind that is listed builds the tags for all spans. -/
theorem updateTag_builtTags (theme : Theme) (stamp : Nat) {spans : List Span} {span : Span}
    (behind : ∀ other ∈ spans, other.stop ≤ span.start)
    (listed : span.kind.name ∈ builtNames spans) :
    updateTag span.kind.name (·.add ⟨span.start, span.stop, stamp + spans.length⟩)
        (builtTags theme stamp spans) = builtTags theme stamp (spans ++ [span]) := by
  rw [builtTags, updateTag_map (fun _ => rfl) (nodup_builtNames spans) listed, builtTags,
    builtNames_append, if_pos listed]
  exact List.map_congr_left fun name _ => (builtTag_append theme stamp behind name).symm

/-- Adding the range of a further span to the tag that was made for its kind builds the tags for
all spans. -/
theorem builtTags_append_of_new (theme : Theme) (stamp : Nat) {spans : List Span} {span : Span}
    (behind : ∀ other ∈ spans, other.stop ≤ span.start)
    (new : span.kind.name ∉ builtNames spans) :
    builtTags theme stamp (spans ++ [span]) = builtTags theme stamp spans ++
      [{ name := span.kind.name, directive := theme.directive? span.kind : Tag }.add
        ⟨span.start, span.stop, stamp + spans.length⟩] := by
  rw [builtTags, builtNames_append, if_neg new, List.map_append, builtTags, List.map_singleton,
    builtTag_append theme stamp behind, if_pos rfl, builtTag_of_new theme stamp new]
  congr 1
  apply List.map_congr_left
  intro name member
  rw [builtTag_append theme stamp behind, if_neg (ne_of_mem_of_not_mem member new)]

/-! ### Building the tags -/

/-- Give the tag of a kind that has not been looked up its directive, if the kind has one. -/
def styledTags (theme : Theme) (configured : List String) (kind : TokenKind) (tags : List Tag) :
    List Tag :=
  if kind.name ∈ configured then tags
  else
    match theme.directive? kind with
    | some directive =>
      updateTag kind.name (fun tag => { tag with directive := some directive }) tags
    | none => tags

/-- The kinds that have been looked up, with a further one. -/
def lookedUp (configured : List String) (kind : TokenKind) : List String :=
  if kind.name ∈ configured then configured else kind.name :: configured

variable {σ : Type} (session : Session σ)

/-- The session with other tags and other kinds looked up, after some operations on tags and some
additions. -/
def withTags (mutations additions : Nat) (tags : List Tag) (configured : List String) :
    Session σ :=
  { session with
    surface :=
      { session.surface with
        mutations
        nextStamp := session.surface.nextStamp + additions
        tags }
    configured }

/-- Tagging a span that lies in the text styles the tag of its kind and adds the range. -/
theorem exists_tagSpan_withTags (mutations additions : Nat) (tags : List Tag)
    (configured : List String) {span : Span} (startInside : session.surface.Inside span.start)
    (stopInside : session.surface.Inside span.stop) (ordered : span.start < span.stop) :
    ∃ after, (session.withTags mutations additions tags configured).tagSpan span =
      session.withTags after (additions + 1)
        (updateTag span.kind.name
          (·.add ⟨span.start, span.stop, session.surface.nextStamp + additions⟩)
          (styledTags session.theme configured span.kind tags))
        (lookedUp configured span.kind) := by
  have looked : ∃ after, (session.withTags mutations additions tags configured).ensureConfigured
      span.kind = session.withTags after additions
        (styledTags session.theme configured span.kind tags) (lookedUp configured span.kind) := by
    rw [ensureConfigured, styledTags, lookedUp]
    by_cases known : span.kind.name ∈ configured
    · exact ⟨mutations, by simp [withTags, known]⟩
    · cases style : session.theme.directive? span.kind with
      | none => exact ⟨mutations, by simp [withTags, known, style]⟩
      | some directive => exact ⟨mutations + 1, by simp [withTags, known, style, tagConfigure]⟩
  obtain ⟨after, looked⟩ := looked
  refine ⟨after + 1, ?_⟩
  have inside (tags : List Tag) (configured : List String) {place : Position}
      (within : session.surface.Inside place) :
      (session.withTags after additions tags configured).surface.Inside place :=
    (inside_congr rfl).mpr within
  rw [tagSpan, looked, tagAdd_eq _ (inside _ _ startInside) (inside _ _ stopInside) ordered]
  rfl

/-- The kinds that have been looked up when spans have been tagged, the newest first. -/
def lookedUpFor (spans : List Span) : List String :=
  (laterKinds spans).reverse ++ StyleTable.kinds

/-- The kinds that have been looked up are those that have a tag. -/
theorem mem_lookedUpFor {name : String} : name ∈ lookedUpFor spans ↔ name ∈ builtNames spans := by
  simp [lookedUpFor, builtNames, or_comm]

/-- The kind of a further span is looked up. -/
theorem lookedUp_lookedUpFor (spans : List Span) (span : Span) :
    lookedUp (lookedUpFor spans) span.kind = lookedUpFor (spans ++ [span]) := by
  rw [lookedUp, lookedUpFor.eq_def (spans ++ [span]), laterKinds_append]
  simp only [mem_lookedUpFor]
  split
  next => rfl
  next => simp [lookedUpFor]

/-- Styling the tag of the kind of a further span and adding its range builds the tags for all
spans. -/
theorem updateTag_styledTags (theme : Theme) (stamp : Nat)
    (behind : ∀ other ∈ spans, other.stop ≤ span.start) :
    updateTag span.kind.name (·.add ⟨span.start, span.stop, stamp + spans.length⟩)
        (styledTags theme (lookedUpFor spans) span.kind (builtTags theme stamp spans)) =
      builtTags theme stamp (spans ++ [span]) := by
  rw [styledTags]
  split
  next known => exact updateTag_builtTags theme stamp behind (mem_lookedUpFor.mp known)
  next unknown =>
    have new := mt mem_lookedUpFor.mpr unknown
    have absent : span.kind.name ∉ (builtTags theme stamp spans).map (·.name) := by
      rwa [map_name_builtTags]
    rw [builtTags_append_of_new theme stamp behind new]
    cases theme.directive? span.kind with
    | none => exact updateTag_of_absent absent
    | some directive =>
        dsimp only
        rw [updateTag_of_absent absent, updateTag_append absent]
        simp [updateTag]

/-- The session with the tags for spans in place of all others. -/
def built (mutations : Nat) (spans : List Span) : Session σ :=
  session.withTags mutations spans.length
    (builtTags session.theme session.surface.nextStamp spans) (lookedUpFor spans)

/-- Tagging spans that are laid on the text, from the tags of the style table on, builds their
tags. -/
theorem exists_tagSpans_built (mutations : Nat) (laid : session.surface.Laid spans) :
    ∃ after, (session.built mutations []).tagSpans spans = session.built after spans := by
  -- From the back: a span is added to the tags of all spans before it.
  induction spans using List.reverseRecOn with
  | nil => exact ⟨mutations, rfl⟩
  | append_singleton spans span inductionHypothesis =>
      have last : span ∈ spans ++ [span] := List.mem_append_right _ List.mem_cons_self
      obtain ⟨startInside, stopInside⟩ := laid.inside span last
      obtain ⟨middle, before⟩ := inductionHypothesis laid.before
      obtain ⟨after, tagged⟩ := session.exists_tagSpan_withTags middle spans.length
        (builtTags session.theme session.surface.nextStamp spans) (lookedUpFor spans)
        startInside stopInside (laid.nonempty span last)
      have step : (session.built mutations []).tagSpans (spans ++ [span]) =
          ((session.built mutations []).tagSpans spans).tagSpan span := by
        simp [tagSpans]
      refine ⟨after, ?_⟩
      rw [step, before, built, tagged, updateTag_styledTags _ _ laid.stop_le_start,
        lookedUp_lookedUpFor, built, List.length_append, List.length_singleton]

/-- Giving kinds their directives makes their tags when nothing is tagged. -/
theorem exists_foldl_tagConfigure (surface : Surface) (untagged : surface.tags = [])
    (theme : Theme) {rows : List StyleRow} (distinct : (rows.map (·.kind)).Nodup) :
    ∃ mutations, (rows.map fun row => (row.kind, row.directive theme)).foldl
        (fun surface (kind, directive) => surface.tagConfigure kind directive) surface =
      { surface with
        mutations
        tags := rows.map fun row =>
          { name := row.kind, directive := some (row.directive theme) } } := by
  induction rows using List.reverseRecOn with
  | nil => exact ⟨surface.mutations, by simp [← untagged]⟩
  | append_singleton rows row inductionHypothesis =>
      rw [List.map_append, List.nodup_append] at distinct
      obtain ⟨mutations, before⟩ := inductionHypothesis distinct.1
      refine ⟨mutations + 1, ?_⟩
      rw [List.map_append, List.foldl_append, before, List.map_singleton, List.foldl_cons,
        List.foldl_nil]
      dsimp only
      rw [tagConfigure, updateTag_of_absent, List.map_append, List.map_singleton]
      simp only [List.map_map, List.mem_map, Function.comp_apply, not_exists, not_and]
      intro other member same
      exact distinct.2.2 _ (List.mem_map_of_mem member) _ List.mem_cons_self same

/-- The full pass starts from the tags of the style table. -/
theorem exists_prepared_eq : ∃ mutations, session.prepared = session.built mutations [] := by
  obtain ⟨dropped, untagged⟩ := dropTags_eq session.surface
  obtain ⟨mutations, styled⟩ := exists_foldl_tagConfigure (dropTags session.surface)
    (by rw [untagged]) session.theme StyleTable.nodup_kinds
  refine ⟨mutations, ?_⟩
  have tags : builtTags session.theme session.surface.nextStamp [] = StyleTable.rows.map fun row =>
      { name := row.kind, directive := some (row.directive session.theme) } := by
    rw [builtTags, builtNames, laterKinds, StyleTable.kinds, List.map_nil, List.filter_nil,
      List.eraseDups_nil, List.append_nil, List.map_map]
    apply List.map_congr_left
    intro row member
    rw [Function.comp_apply, builtTag, session.theme.directive?_of_mem member]
    rfl
  rw [prepared, StyleTable.directives, styled, untagged, built, withTags, tags, List.map_map]
  rfl

/-- A full pass builds the tags for the spans of the whole text. -/
theorem exists_fullPass_eq_built (lined : session.surface.Lined) :
    ∃ mutations, session.fullPass =
      ({ session.built mutations session.wholeMapping.spans with
          snapshot := if session.wholeMapping.complete then session.surface.content else [] },
        ⟨.full, 1, session.surface.lineCount, session.wholeMapping.spans.length,
          session.wholeMapping.complete⟩) := by
  obtain ⟨mutations, start⟩ := session.exists_prepared_eq
  have laid : session.surface.Laid session.wholeMapping.spans := laid_ofTokens lined _
  obtain ⟨after, tagged⟩ := session.exists_tagSpans_built mutations laid
  refine ⟨after, ?_⟩
  rw [fullPass_eq, start, tagged]

/-- The tags after a full pass are those that are built for the spans of the text. -/
theorem tags_fullPass (lined : session.surface.Lined) :
    session.fullPass.1.surface.tags =
      builtTags session.theme session.surface.nextStamp session.wholeMapping.spans := by
  obtain ⟨mutations, same⟩ := session.exists_fullPass_eq_built lined
  rw [same]
  rfl

end Session

/-! ### What stays when stamps and counters are left out -/

/-- The range without its stamp. -/
def TagRange.unstamped (range : TagRange) : TagRange :=
  { range with stamp := 0 }

/-- The tag without the stamps of its ranges. -/
def Tag.unstamped (tag : Tag) : Tag :=
  { tag with ranges := tag.ranges.map TagRange.unstamped }

namespace Session

variable {σ : Type} (session : Session σ)

/-- The session without the stamps and the counters of its surface. -/
def uncounted : Session σ :=
  { session with
    surface :=
      { session.surface with
        mutations := 0
        nextStamp := 0
        tags := session.surface.tags.map Tag.unstamped } }

/-- Apart from their stamps, the ranges of a kind are its spans. -/
theorem map_unstamped_builtRanges (stamp : Nat) (spans : List Span) (name : String) :
    (builtRanges stamp spans name).map TagRange.unstamped =
      (spans.filter (·.kind.name = name)).map fun span => ⟨span.start, span.stop, 0⟩ := by
  induction spans using List.reverseRecOn with
  | nil => rfl
  | append_singleton spans span inductionHypothesis =>
      rw [builtRanges_append, List.filter_append, List.map_append, ← inductionHypothesis]
      split
      next same => simp [same, TagRange.unstamped]
      next other => simp [Ne.symm other]

/-- Apart from the stamps of the ranges, the tags do not depend on the stamp of the first
addition. -/
theorem map_unstamped_builtTags (theme : Theme) (stamp other : Nat) (spans : List Span) :
    (builtTags theme stamp spans).map Tag.unstamped =
      (builtTags theme other spans).map Tag.unstamped := by
  simp only [builtTags, List.map_map]
  apply List.map_congr_left
  intro name _
  simp only [Function.comp_apply, Tag.unstamped, builtTag, map_unstamped_builtRanges]

/-- A further full pass changes stamps and counters at most, and reports the same. -/
theorem uncounted_fullPass_fullPass (lined : session.surface.Lined) :
    session.fullPass.1.fullPass.1.uncounted = session.fullPass.1.uncounted ∧
      session.fullPass.1.fullPass.2 = session.fullPass.2 := by
  obtain ⟨mutations, first⟩ := session.exists_fullPass_eq_built lined
  rw [first]
  dsimp only
  generalize rebuilt : { session.built mutations session.wholeMapping.spans with
    snapshot := if session.wholeMapping.complete then session.surface.content else [] } = after
  have again : after.surface.Lined := by
    rw [← rebuilt]
    exact ⟨lined.nonempty, lined.newlineFree⟩
  obtain ⟨further, second⟩ := after.exists_fullPass_eq_built again
  rw [second, ← rebuilt]
  refine ⟨?_, rfl⟩
  -- The second pass starts from a later stamp, and nothing else is different.
  simp only [uncounted, built, withTags]
  rw [map_unstamped_builtTags _ _ session.surface.nextStamp]
  rfl

/-- A full pass forgets what was there before it: the tags are those that are built for the spans of
the text. A further full pass changes stamps and counters at most, and sessions with the same text,
theme and tokenizer have the same tags after it. -/
theorem fullPass_forgets (lined : session.surface.Lined) :
    let content := session.surface.content
    let mapping := Mapping.ofTokens .start content (session.tokenizer.lex content)
    let after := session.fullPass
    after.1.surface.tags = builtTags session.theme session.surface.nextStamp mapping.spans ∧
      (after.1.fullPass.1.uncounted = after.1.uncounted ∧ after.1.fullPass.2 = after.2) ∧
      ∀ {τ : Type} (other : Session τ), other.surface.Lined → other.surface.content = content →
        other.theme = session.theme → other.tokenizer = session.tokenizer →
        other.fullPass.1.surface.tags.map Tag.unstamped =
          after.1.surface.tags.map Tag.unstamped := by
  refine ⟨session.tags_fullPass lined, session.uncounted_fullPass_fullPass lined, ?_⟩
  intro τ other otherLined sameContent sameTheme sameTokenizer
  have sameMapping : other.wholeMapping = session.wholeMapping := by
    rw [wholeMapping, sameContent, sameTokenizer, wholeMapping]
  rw [session.tags_fullPass lined, other.tags_fullPass otherLined, sameMapping, sameTheme]
  exact map_unstamped_builtTags _ _ _ _

/-- Tags that were made by hand, kinds that were looked up and a snapshot of another text do not
outlive a full pass. -/
theorem fullPass_forgets_hand_made_tags :
    let made : Surface :=
      { Surface.ofText ['a', 'b'] with
        tags := [
          { name := "Text", directive := some { font := some .bold }
            ranges := [⟨⟨1, 0⟩, ⟨1, 1⟩, 0⟩] },
          { name := "mine" }]
        nextStamp := 1 }
    let session := { bare made .plainText with configured := ["Text", "Name"], snapshot := ['c'] }
    let fresh : Session MemoryStore := { bare (.ofText ['a', 'b']) .plainText with store := {} }
    session.surface.Lined ∧ fresh.surface.Lined ∧
      session.fullPass.1.surface.tags = builtTags .dark 1 [⟨.start, ⟨1, 2⟩, .text⟩] ∧
      session.fullPass.1.fullPass.1.uncounted = session.fullPass.1.uncounted ∧
      fresh.fullPass.1.surface.tags.map Tag.unstamped =
        session.fullPass.1.surface.tags.map Tag.unstamped := by
  intro made session fresh
  have lined : session.surface.Lined := lined_of_lines_eq rfl
  have freshLined : fresh.surface.Lined := lined_of_lines_eq rfl
  obtain ⟨tags, ⟨again, -⟩, forgets⟩ := session.fullPass_forgets lined
  exact ⟨lined, freshLined, tags, again, forgets fresh freshLined rfl rfl rfl⟩

end Session

end Highlighter
