import Ingestion.Plugin.Registry

/-!
# The catalog of plugins

The plugins that every installation has: what they are made of, as far as plans depend on it.
-/

namespace Ingestion.Catalog

/-! ## Types of data -/

/-- Repositories and commits. -/
def code : List String := ["CODE"]

/-- Issues and boards. -/
def ticket : List String := ["TICKET"]

/-- Reviews of code. -/
def review : List String := ["CODEREVIEW"]

/-- Data that others refer to, such as accounts. -/
def cross : List String := ["CROSS"]

/-- Builds and deployments. -/
def cicd : List String := ["CICD"]

/-- Findings on the quality of code. -/
def quality : List String := ["CODEQUALITY"]

/-- Reviews of code and the data they refer to. -/
def reviewAndCross : List String := ["CODEREVIEW", "CROSS"]

/-! ## Sources -/

/-- The source of GitHub. -/
def github : Collector where
  name := "github"
  subtasks := [
    { name := "collectApiIssues", kind := .collector, domains := ticket },
    { name := "extractApiIssues", kind := .extractor, domains := ticket },
    { name := "collectApiPullRequests", kind := .collector, domains := review },
    { name := "extractApiPullRequests", kind := .extractor, domains := review },
    { name := "collectApiCommits", kind := .collector, domains := code },
    { name := "extractApiCommits", kind := .extractor, domains := code },
    { name := "collectAccounts", kind := .collector, domains := cross },
    { name := "extractAccounts", kind := .extractor, domains := cross },
    { name := "collectRuns", kind := .collector, domains := cicd },
    { name := "extractRuns", kind := .extractor, domains := cicd },
    { name := "enrichPullRequestIssues", kind := .enricher, domains := reviewAndCross },
    { name := "convertRepo", kind := .converter, domains := code },
    { name := "convertIssues", kind := .converter, domains := ticket },
    { name := "convertPullRequests", kind := .converter, domains := review },
    { name := "convertCommits", kind := .converter, domains := code },
    { name := "convertAccounts", kind := .converter, domains := cross },
    { name := "convertRuns", kind := .converter, domains := cicd }]
  tables := [("CODE", "repos"), ("TICKET", "boards"), ("CICD", "cicd_scopes")]

/-- The source of GitLab. -/
def gitlab : Collector where
  name := "gitlab"
  subtasks := [
    { name := "collectApiIssues", kind := .collector, domains := ticket },
    { name := "extractApiIssues", kind := .extractor, domains := ticket },
    { name := "collectApiMergeRequests", kind := .collector, domains := review },
    { name := "extractApiMergeRequests", kind := .extractor, domains := review },
    { name := "collectApiCommits", kind := .collector, domains := code },
    { name := "extractApiCommits", kind := .extractor, domains := code },
    { name := "collectApiPipelines", kind := .collector, domains := cicd },
    { name := "extractApiPipelines", kind := .extractor, domains := cicd },
    { name := "collectApiJobs", kind := .collector, domains := cicd },
    { name := "extractApiJobs", kind := .extractor, domains := cicd },
    { name := "collectAccounts", kind := .collector, domains := cross, enabledByDefault := false },
    { name := "convertApiProjects", kind := .converter, domains := code },
    { name := "convertApiIssues", kind := .converter, domains := ticket },
    { name := "convertApiMergeRequests", kind := .converter, domains := review },
    { name := "convertApiCommits", kind := .converter, domains := code },
    { name := "convertPipelines", kind := .converter, domains := cicd },
    { name := "convertJobs", kind := .converter, domains := cicd }]
  tables := [("CODE", "repos"), ("TICKET", "boards"), ("CICD", "cicd_scopes")]

/-- The source of Jira. -/
def jira : Collector where
  name := "jira"
  subtasks := [
    { name := "collectStatus", kind := .collector, domains := ticket },
    { name := "extractStatus", kind := .extractor, domains := ticket },
    { name := "collectIssueTypes", kind := .collector, domains := ticket },
    { name := "extractIssueType", kind := .extractor, domains := ticket },
    { name := "collectIssues", kind := .collector, domains := ticket },
    { name := "extractIssues", kind := .extractor, domains := ticket },
    { name := "collectIssueChangelogs", kind := .collector, domains := ticket },
    { name := "extractIssueChangelogs", kind := .extractor, domains := ticket },
    { name := "collectAccounts", kind := .collector, domains := cross },
    { name := "extractAccounts", kind := .extractor, domains := cross },
    { name := "collectSprints", kind := .collector, domains := ticket },
    { name := "extractSprints", kind := .extractor, domains := ticket },
    { name := "convertBoard", kind := .converter, domains := ticket },
    { name := "convertIssues", kind := .converter, domains := ticket },
    { name := "convertIssueChangelogs", kind := .converter, domains := ticket },
    { name := "convertSprints", kind := .converter, domains := ticket },
    { name := "convertAccounts", kind := .converter, domains := cross }]
  tables := [("TICKET", "boards")]

/-- The source of Jenkins. -/
def jenkins : Collector where
  name := "jenkins"
  subtasks := [
    { name := "collectApiBuilds", kind := .collector, domains := cicd },
    { name := "extractApiBuilds", kind := .extractor, domains := cicd },
    { name := "collectApiStages", kind := .collector, domains := cicd },
    { name := "extractApiStages", kind := .extractor, domains := cicd },
    { name := "convertBuildsToCicdTasks", kind := .converter, domains := cicd },
    { name := "convertBuildsToCicdPipelines", kind := .converter, domains := cicd }]
  tables := [("CICD", "cicd_scopes")]
  scopeOptional := true

/-- The source of Octopus. -/
def octopus : Collector where
  name := "octopus"
  subtasks := [
    { name := "Collect Projects", kind := .collector, domains := cicd },
    { name := "Collect Environments", kind := .collector, domains := cicd }]
  tables := [("CICD", "cicd_scopes")]

/-- The source of Bitbucket Server. -/
def bitbucketServer : Collector where
  name := "bitbucket_server"
  subtasks := [
    { name := "collectApiPullRequests", kind := .collector, domains := review },
    { name := "extractApiPullRequests", kind := .extractor, domains := review },
    { name := "convertPullRequests", kind := .converter, domains := review }]
  tables := [("CODEREVIEW", "repos")]

/-- The source of CircleCI. -/
def circleci : Collector where
  name := "circleci"
  subtasks := [
    { name := "collectPipelines", kind := .collector, domains := cicd },
    { name := "extractPipelines", kind := .extractor, domains := cicd },
    { name := "collectJobs", kind := .collector, domains := cicd },
    { name := "extractJobs", kind := .extractor, domains := cicd },
    { name := "convertPipelines", kind := .converter, domains := cicd },
    { name := "convertJobs", kind := .converter, domains := cicd }]
  tables := [("CICD", "cicd_scopes")]

/-- The source of SonarQube. -/
def sonarqube : Collector where
  name := "sonarqube"
  subtasks := [
    { name := "CollectIssues", kind := .collector, domains := quality },
    { name := "ExtractIssues", kind := .extractor, domains := quality },
    { name := "ConvertIssues", kind := .converter, domains := quality }]
  tables := [("CODEQUALITY", "cq_projects")]

/-- The source of webhooks. They push data in, so that there is only something to convert. -/
def webhook : Collector where
  name := "webhook"
  subtasks := [
    { name := "convertDeployments", kind := .converter, domains := cicd }]
  scopeOptional := true

/-! ## The registry -/

/-- The sources of the catalog. -/
def collectors : List Collector :=
  [github, gitlab, jira, jenkins, octopus, bitbucketServer, circleci, sonarqube, webhook]

/-- The metrics of the catalog. -/
def metrics : List Metric :=
  [⟨"dora"⟩, ⟨"refdiff"⟩, ⟨"issue_trace"⟩]

/-- The registry of the plugins of the catalog. -/
def registry : Registry :=
  let sources := collectors.foldl (fun r c => r.addSource (.described c)) ({} : Registry)
  { metrics.foldl Registry.addMetric sources with mapsProjects := true }

end Ingestion.Catalog
