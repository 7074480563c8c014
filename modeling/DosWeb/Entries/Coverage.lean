import DosWeb.Library.OrderedSet

namespace DosWeb.Entries.Coverage

open Library.OrderedSet

def patternBindings : List ((String × String) × List String) := [
  (("spring_mvc", "annotation_mapping"),
    ["spring_annotation_mapping", "spring_spel_source_default_modeled_entry"]),
  (("spring_mvc", "static_registration"), ["armeria_annotated_service_registration"]),
  (("servlet", "annotation_mapping"),
    ["servlet_annotation_mapping", "spring_component_filter_default_registration"]),
  (("servlet", "static_registration"),
    ["filter_registration_bean", "jetty_servlet_holder_registration", "web_xml_servlet_mapping"]),
  (("netty", "pipeline_registration"),
    ["netty_pipeline_registration", "netty_source_switch_route_alias"]),
  (("mqtt", "subscription_registration"), ["mqtt_subscription_registration"]),
  (("mqtt", "broker_registration"),
    ["jmqtt_anonymous_channel_initializer", "jmqtt_object_callback_mqtt_conversion",
      "jmqtt_validate_message_process_protocol"]), (("jax_rs", "static_registration"),
    ["airlift_jaxrs_source_registration", "dropwizard_guice_source_registration",
      "jax_rs_static_registration", "sisu_named_guice_source_registration"]),
  (("grpc", "static_registration"), ["grpc_generated_client_or_bidi_streaming_registration",
      "grpc_generated_rpc_static_registration"])]

def boundPatterns (framework registrationKind : String) : List String :=
  (patternBindings.lookup (framework, registrationKind)).getD []

/-- An exact modeled identity; substring similarity has no meaning. -/
def registrationCoveragePatternId (framework registrationKind supportedPattern : String) :
    Option String :=
  if supportedPattern ∈ boundPatterns framework registrationKind then
    some ("entry-registration-coverage:" ++ framework ++ ":" ++ registrationKind ++ ":" ++
      supportedPattern)
  else none

def registrationCoveragePatternIds (framework registrationKind : String) : List String :=
  sortedSet ((boundPatterns framework registrationKind).filterMap
    (registrationCoveragePatternId framework registrationKind))

def registrationCoveragePatternBelongsToFramework (framework patternId : String) : Bool :=
  (patternBindings.filter fun binding => binding.1.1 == framework).any fun binding =>
    (registrationCoveragePatternIds framework binding.1.2).contains patternId

theorem pattern_belongs (framework registrationKind patternId : String)
    (listed : patternId ∈ registrationCoveragePatternIds framework registrationKind) :
    registrationCoveragePatternBelongsToFramework framework patternId = true := by
  have bound : ∃ pattern, pattern ∈ boundPatterns framework registrationKind := by
    rw [registrationCoveragePatternIds, mem_sortedSet, List.mem_filterMap] at listed
    rcases listed with ⟨pattern, member, _⟩
    exact ⟨pattern, member⟩
  rcases bound with ⟨pattern, member⟩
  unfold boundPatterns at member
  cases found : patternBindings.lookup (framework, registrationKind) with
  | none => simp [found] at member
  | some patterns =>
    rcases List.lookup_eq_some_iff.mp found with ⟨front, back, split, _⟩
    have binding : ((framework, registrationKind), patterns) ∈ patternBindings := by
      simp [split]
    unfold registrationCoveragePatternBelongsToFramework
    rw [List.any_eq_true]
    refine ⟨_, List.mem_filter.mpr ⟨binding, by simp⟩, ?_⟩
    simpa using listed

end DosWeb.Entries.Coverage
