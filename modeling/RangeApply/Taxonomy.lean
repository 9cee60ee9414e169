import Mathlib.Data.Char
import Mathlib.Data.List.Lex
import RangeApply.Resolver

/-! The curated skills: what names them, and where a text mentions one. A name that is also an
ordinary word counts only where its context pattern matches. -/
namespace RangeApply

/-- A canonical skill and the other surface forms that mean it. -/
structure SkillEntry where
  canonical : Text
  aliases : List Text
  context : Option Pattern

def skillEntry (canonical : String) (aliases : List String) : SkillEntry :=
  ⟨canonical.ascii, aliases.map String.ascii, none⟩

def ambiguousEntry (canonical : String) (aliases : List String) (context : String) : SkillEntry :=
  ⟨canonical.ascii, aliases.map String.ascii, some (.of true false context.ascii)⟩

/-- `_OTHER_LANGS`. -/
def otherLangs : String :=
  "(?:python|java|rust|c\\+\\+|c#|node(?:\\.js)?|typescript|javascript|ruby|kotlin|scala|elixir)"

def goContext : String :=
  "\\bgolang\\b" ++
  "|\\bgo\\s+(?:programming|language|developer|engineer|services?|microservices?|" ++
  "routines?|modules?|codebase|backend)\\b" ++
  "|\\b(?:in|with|using|written\\s+in)\\s+go\\b" ++
  "|\\bgo\\s*(?:[/,]|\\bor\\b|\\band\\b)\\s*" ++ otherLangs ++ "\\b" ++
  "|\\b" ++ otherLangs ++ "\\s*(?:[/,]|\\bor\\b|\\band\\b)\\s*go\\b"

def restContext : String :=
  "\\brest(?:ful)?\\s+(?:api|apis|service|services|endpoint|endpoints|web\\s+service)\\b" ++
  "|\\brestful\\b"

def springContext : String :=
  "\\bspring\\s+(?:boot|framework|mvc|cloud|security|data)\\b" ++
  "|\\bspring\\b[^.]\x7b0,40\x7d\\bjava\\b"

def ragContext : String :=
  "\\bretrieval[\\s-]augmented\\s+generation\\b" ++
  "|\\brag\\b[^.]\x7b0,60\x7d\\b(?:llm|llms|retrieval|vector|embedding|embeddings|pipeline)\\b" ++
  "|\\b(?:llm|llms|retrieval|vector|embedding|embeddings)\\b[^.]\x7b0,60\x7d\\brag\\b"

def rContext : String :=
  "\\br\\s+(?:programming|language|scripts?|studio)\\b|\\brstudio\\b" ++
  "|\\b(?:python|sas|matlab)\\s*[/,]\\s*r\\b"

def cContext : String :=
  "\\bc\\s+(?:programming|language)\\b|\\bc\\s*/\\s*c\\+\\+|\\bansi\\s+c\\b|\\bembedded\\s+c\\b"

def swiftContext : String :=
  "\\bswift(?:ui)?\\b[^.]\x7b0,60\x7d\\b(?:ios|xcode|apple|objective-c|mobile|macos)\\b" ++
  "|\\bswiftui\\b|\\b(?:ios|xcode|objective-c)\\b[^.]\x7b0,60\x7d\\bswift\\b"

/-- `_RAW_TAXONOMY`. -/
def rawTaxonomy : List SkillEntry := [
  skillEntry "Python" ["python3", "py3"],
  ambiguousEntry "Go" ["golang"] goContext,
  skillEntry "Java" ["java8", "java 11", "java 17"],
  skillEntry "JavaScript" ["js", "ecmascript", "es6"],
  skillEntry "TypeScript" ["ts"],
  skillEntry "C++" ["cpp", "c plus plus"],
  skillEntry "C#" ["csharp", "c sharp"],
  ambiguousEntry "C" [] cContext,
  skillEntry "Rust" ["rustlang"],
  skillEntry "Kotlin" [],
  ambiguousEntry "Swift" ["swiftui"] swiftContext,
  skillEntry "Ruby" [],
  skillEntry "PHP" ["php8"],
  skillEntry "Scala" [],
  ambiguousEntry "R" ["rstudio"] rContext,
  skillEntry "MATLAB" [],
  skillEntry "Perl" [],
  skillEntry "Shell Scripting" ["bash", "shell script", "zsh", "shell scripting"],
  skillEntry "SQL" ["ansi sql", "t-sql", "pl/sql"],
  skillEntry "Dart" [],
  skillEntry "Elixir" [],
  skillEntry "Objective-C" ["objective c", "objc"],
  skillEntry "FastAPI" ["fast api"],
  skillEntry "Django" ["django rest framework", "drf"],
  skillEntry "Flask" [],
  skillEntry "Node.js" ["nodejs", "node js", "node"],
  skillEntry "Express" ["express.js", "expressjs"],
  ambiguousEntry "Spring Boot" ["spring framework", "spring mvc", "springboot"] springContext,
  skillEntry "Ruby on Rails" ["rails", "ror"],
  skillEntry "Laravel" [],
  skillEntry ".NET" ["dotnet", ".net core", "asp.net"],
  skillEntry "NestJS" ["nest.js"],
  skillEntry "gRPC" ["grpc"],
  skillEntry "GraphQL" ["graph ql", "apollo graphql"],
  ambiguousEntry "REST APIs" ["rest api", "restful api", "restful"] restContext,
  skillEntry "Protocol Buffers" ["protobuf", "proto3"],
  skillEntry "WebSockets" ["websocket", "web sockets"],
  skillEntry "Microservices" ["micro-services", "microservice architecture"],
  skillEntry "Event-Driven Architecture" ["event driven", "event-driven", "pub/sub", "pubsub"],
  skillEntry "Distributed Systems" ["distributed system", "distributed computing"],
  skillEntry "Concurrency"
    ["concurrent programming", "multithreading", "multi-threading", "parallelism"],
  skillEntry "System Design" ["systems design", "software architecture"],
  skillEntry "API Design" ["api development", "api design"],
  skillEntry "React" ["react.js", "reactjs", "react js"],
  skillEntry "Next.js" ["nextjs", "next js"],
  skillEntry "Vue.js" ["vue", "vuejs", "vue 3"],
  skillEntry "Angular" ["angularjs", "angular 2+"],
  skillEntry "Svelte" ["sveltekit"],
  skillEntry "HTML" ["html5"],
  skillEntry "CSS" ["css3", "scss", "sass"],
  skillEntry "Tailwind CSS" ["tailwind", "tailwindcss"],
  skillEntry "Redux" [],
  skillEntry "React Native" ["react-native"],
  skillEntry "Flutter" [],
  skillEntry "Android" ["android sdk", "android development"],
  skillEntry "iOS" ["ios development"],
  skillEntry "PostgreSQL" ["postgres", "psql", "postgresql"],
  skillEntry "MySQL" ["mariadb"],
  skillEntry "SQLite" [],
  skillEntry "MongoDB" ["mongo"],
  skillEntry "Redis" [],
  skillEntry "DynamoDB" ["dynamo db"],
  skillEntry "Cassandra" ["apache cassandra"],
  skillEntry "Elasticsearch" ["elastic search", "opensearch"],
  skillEntry "Neo4j" ["graph database"],
  skillEntry "Snowflake" [],
  skillEntry "BigQuery" ["big query"],
  skillEntry "ClickHouse" ["click house"],
  skillEntry "Pinecone" [],
  skillEntry "ChromaDB" ["chroma db", "chroma"],
  skillEntry "Weaviate" [],
  skillEntry "FAISS" [],
  skillEntry "pgvector" ["pg vector"],
  skillEntry "Vector Databases" ["vector database", "vector store", "vector search"],
  skillEntry "Database Design" ["schema design", "data modeling", "data modelling"],
  skillEntry "Query Optimization" ["query tuning", "sql optimization", "indexing strategy"],
  skillEntry "ORM" ["sqlalchemy", "hibernate", "prisma", "typeorm"],
  skillEntry "Docker" ["containerization", "docker compose", "containers"],
  skillEntry "Kubernetes" ["k8s", "eks", "gke", "aks"],
  skillEntry "AWS" ["amazon web services", "ec2", "s3", "lambda"],
  skillEntry "GCP" ["google cloud", "google cloud platform"],
  skillEntry "Azure" ["microsoft azure"],
  skillEntry "Terraform" ["infrastructure as code", "iac"],
  skillEntry "Ansible" [],
  skillEntry "CI/CD"
    ["ci cd", "continuous integration", "continuous delivery", "continuous deployment"],
  skillEntry "GitHub Actions" ["github action"],
  skillEntry "Jenkins" [],
  skillEntry "Linux" ["unix", "ubuntu", "debian"],
  skillEntry "Git" ["version control", "github", "gitlab"],
  skillEntry "Nginx" [],
  skillEntry "Kafka" ["apache kafka"],
  skillEntry "RabbitMQ" ["rabbit mq", "amqp"],
  skillEntry "Celery" [],
  skillEntry "Airflow" ["apache airflow"],
  skillEntry "Spark" ["apache spark", "pyspark"],
  skillEntry "dbt" ["data build tool"],
  skillEntry "ETL" ["etl pipeline", "elt", "data pipeline", "data pipelines"],
  skillEntry "Observability" ["monitoring", "prometheus", "grafana", "opentelemetry", "datadog"],
  skillEntry "Load Testing" ["k6", "jmeter", "locust", "performance testing"],
  skillEntry "Caching" ["cache layer", "caching strategy"],
  skillEntry "Scalability" ["scalable systems", "high availability", "horizontal scaling"],
  skillEntry "Machine Learning" ["ml", "machine-learning"],
  skillEntry "Deep Learning" ["neural networks", "neural network"],
  skillEntry "PyTorch" ["torch"],
  skillEntry "TensorFlow" ["tf2"],
  skillEntry "Keras" [],
  skillEntry "scikit-learn" ["sklearn", "scikit learn"],
  skillEntry "Pandas" ["pandas dataframe"],
  skillEntry "NumPy" ["numpy"],
  skillEntry "Computer Vision" ["cv", "opencv", "image classification", "object detection"],
  skillEntry "NLP" ["natural language processing", "text classification"],
  skillEntry "LLMs"
    ["large language models", "large language model", "llm", "gpt", "transformers"],
  skillEntry "LangChain" ["lang chain"],
  ambiguousEntry "RAG"
    ["retrieval augmented generation", "retrieval-augmented generation"] ragContext,
  skillEntry "Prompt Engineering" ["prompting", "prompt design"],
  skillEntry "Embeddings" ["sentence transformers", "text embeddings", "embedding models"],
  skillEntry "MLOps" ["ml ops", "model deployment", "model serving"],
  skillEntry "Feature Engineering" ["feature extraction"],
  skillEntry "Model Evaluation" ["model validation", "cross validation", "cross-validation"],
  skillEntry "Recommendation Systems" ["recommender systems", "recsys"],
  skillEntry "Time Series" ["time-series", "forecasting"],
  skillEntry "Reinforcement Learning" ["rl"],
  skillEntry "Data Analysis" ["data analytics", "exploratory data analysis", "eda"],
  skillEntry "Data Visualization" ["matplotlib", "seaborn", "plotly", "tableau", "power bi"],
  skillEntry "Statistics" ["statistical analysis", "probability"],
  skillEntry "Testing" ["unit testing", "unit tests", "pytest", "jest", "test automation", "tdd"],
  skillEntry "Code Review" ["peer review", "code reviews"],
  skillEntry "Agile" ["scrum", "kanban", "sprint planning"],
  skillEntry "Debugging" ["troubleshooting", "root cause analysis"],
  skillEntry "Documentation" ["technical writing", "technical documentation"],
  skillEntry "Security" ["application security", "appsec", "secure coding", "owasp"],
  skillEntry "Authentication" ["oauth", "oauth2", "jwt", "sso", "authorization"],
  skillEntry "Web Scraping"
    ["scraping", "crawler", "crawling", "beautifulsoup", "scrapy", "playwright", "selenium"],
  skillEntry "Data Structures" ["data structures and algorithms", "dsa"],
  skillEntry "Algorithms" ["algorithm design", "algorithmic"],
  skillEntry "Operating Systems" ["os internals"],
  skillEntry "Computer Networks" ["networking", "tcp/ip", "http protocols"],
  skillEntry "Compilers" ["compiler design"],
  skillEntry "Communication"
    ["written communication", "verbal communication", "communication skills"],
  skillEntry "Collaboration" ["teamwork", "cross-functional", "cross functional"],
  skillEntry "Problem Solving" ["problem-solving", "analytical skills"],
  skillEntry "Ownership" ["end-to-end ownership", "self-starter", "autonomy"],
  skillEntry "Mentorship" ["mentoring", "coaching"],
  skillEntry "Leadership" ["technical leadership", "team lead"]]

/-! ### Surfaces -/

/-- `[A-Za-z0-9]`. -/
def termChar : CharSet := .union (.range 'A' 'Z') (.union (.range 'a' 'z') (.range '0' '9'))

/-- `[A-Za-z0-9._-]`. -/
def leadingChar : CharSet := .union termChar (.union (.one '.') (.union (.one '_') (.one '-')))

/-- `_boundary_pattern`. -/
def boundaryRegex (term : Text) : Regex :=
  .seq (.notBehind leadingChar) (.seq (literal term) (.notAhead (.set termChar)))

namespace SkillEntry

def surfaces (e : SkillEntry) : List Text := e.canonical :: e.aliases

/-- The alternatives of a surface pattern, the longest first. -/
def surfacePattern (e : SkillEntry) : Pattern :=
  let terms := e.surfaces.insertionSort fun a b => b.length ≤ a.length
  ⟨(terms.map boundaryRegex).foldr .alt (.set (.except .any)), true⟩

/-- The text mentions the skill. A surface that does not even occur need not be searched for. -/
def mentioned (u : Unicode) (text lowered : Text) (e : SkillEntry) : Bool :=
  match e.context with
  | some context => context.found u text
  | none =>
    (e.surfaces.any fun surface => Text.occurs (u.lower surface) lowered) &&
      e.surfacePattern.found u text

end SkillEntry

/-- `find_skills_in_text`. -/
def findSkillsInText (u : Unicode) (text : Text) : List Text :=
  ((rawTaxonomy.filter (SkillEntry.mentioned u text (u.lower text))).map
    SkillEntry.canonical).insertionSort (· ≤ ·)

/-- `_ALIAS_MAP`: each surface with the skill it means. -/
def aliasMap (u : Unicode) : List (Text × Text) :=
  rawTaxonomy.flatMap fun e => e.surfaces.map fun surface => (u.lower surface, e.canonical)

/-- Without blanks, dots, underscores and hyphens. -/
def squashed (text : Text) : Text := text.filter fun c => !c.isBlank && c ∉ ['.', '_', '-']

def suffixRe : Pattern := .of false false "(js|framework|library)$".ascii

/-- The skill that a surface form means, if it is known. -/
def canonicalize (u : Unicode) (term : Text) : Option Text :=
  if term = [] then none
  else
    let known := aliasMap u
    let raw := u.lower (Text.strip term)
    let bySquashed (wanted : Text) : Option Text :=
      (known.find? fun entry => squashed entry.1 = wanted).map (·.2)
    let trimmed := suffixRe.sub u [] (squashed raw)
    ((known.lookup raw).or (bySquashed (squashed raw))).or
      (if trimmed ≠ [] ∧ trimmed ≠ squashed raw then bySquashed trimmed else none)

end RangeApply
