import ScenarioRunner.Error

/-!
The scenarios that come with the program.
-/

namespace ScenarioRunner.BuiltinScenario

/-- Builds, deploys, inspects and deletes a pipeline of one node. -/
def pipelineLifecycle : String :=
"# Builds, deploys, inspects and deletes a one-node pipeline in Pipeline Studio.
name: pipeline lifecycle
description: >-
  Create a File Delete pipeline with Instrumentation off, deploy it, check its
  configuration, then delete it.

vars:
  pipeline_name: __UI_test_pipeline
  test_path: __UI_test_path

steps:
  # Go to Pipeline Studio
  - action: navigate
    url: /
  - action: interact
    target:
      - get: \"#resource-center-btn\"
    perform: [click]
  - action: interact
    target:
      - contains: Create
    perform: [click]
  - action: assert_url_contains
    fragment: /pipelines

  # Add an action node, the minimal working pipeline
  - action: interact
    target:
      - get: .item
      - contains: Conditions and Actions
    perform: [click]
  - action: interact
    target:
      - get: .item-body-wrapper
      - contains: File Delete
    perform: [click]

  # Fill out the required Path property
  - action: interact
    target:
      - get: .node-configure-btn
    perform: [show, click]
  - action: interact
    target:
      - get: .form-group
      - contains: Path
      - parent
      - find: input
    perform:
      - click
      - type: $\x7btest_path\x7d
  - action: interact
    target:
      - get: \"[data-testid=close-config-popover]\"
    perform: [click]

  # Toggle Instrumentation off in the pipeline configuration, then save
  - action: interact
    target:
      - contains: Configure
    perform: [click]
  - action: locate
    target:
      - get: .label-with-toggle
      - contains: Instrumentation
      - parent
    as: instrumentation
  - action: assert_present
    target:
      - alias: instrumentation
      - contains: \"On\"
  - action: interact
    target:
      - alias: instrumentation
      - find: .toggle-switch
    perform: [click]
  - action: assert_present
    target:
      - alias: instrumentation
      - contains: \"Off\"
  - action: interact
    target:
      - get: \"[data-testid=config-apply-close]\"
    perform: [click]

  # Name the pipeline, then deploy it
  - action: interact
    target:
      - get: .pipeline-name
    perform: [click]
  - action: interact
    target:
      - get: \"#pipeline-name-input\"
    perform:
      - type: $\x7bpipeline_name\x7d
      - type: \"\x7benter\x7d\"
  - action: interact
    target:
      - get: \"[data-testid=deploy-pipeline]\"
    perform: [click]

  # The deployed pipeline keeps its name, stage and configuration
  - action: assert_url_contains
    fragment: /view/$\x7bpipeline_name\x7d
  - action: assert_present
    target:
      - contains: $\x7bpipeline_name\x7d
  - action: assert_present
    target:
      - contains: FileDelete
  - action: interact
    target:
      - contains: Configure
    perform: [click]
  - action: interact
    target:
      - contains: Pipeline config
    perform: [click]
  - action: locate
    target:
      - get: .label-with-toggle
      - contains: Instrumentation
      - parent
    as: instrumentation
  - action: assert_present
    target:
      - alias: instrumentation
      - contains: \"Off\"
  - action: interact
    target:
      - get: \"[data-testid=close-modeless]\"
    perform: [click]

  # Delete the pipeline to clean up
  - action: interact
    target:
      - get: .pipeline-actions-popper
    perform: [click]
  - action: interact
    target:
      - get: \"[data-testid=delete-pipeline]\"
    perform: [click]
  - action: interact
    target:
      - get: \"[data-testid=confirmation-modal]\"
      - find: .btn-primary
    perform: [click]

  # The pipeline no longer exists
  - action: assert_absent
    target:
      - contains: $\x7bpipeline_name\x7d
"

/-- The texts of the scenarios by name. -/
def all : List (String × String) := [("pipeline-lifecycle", pipelineLifecycle)]

def names : List String := all.map (·.1)

/-- The text of a scenario by its exact name. -/
def source (name : String) : Except Error String :=
  match all.lookup name with
  | some text => .ok text
  | none => .error (.unknownBuiltin name (String.intercalate ", " names))

end ScenarioRunner.BuiltinScenario
