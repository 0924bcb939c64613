import FormScaffold.Shipped.Lines

/-!
# Shipped templates: Deployment

Deployment files: the project file, the container image, the build and the settings.
-/

namespace FormScaffold.Shipped

/-- The template file `deployment/Dockerfile.tera`. -/
def dockerfile : String := ofLines
  ["# Generated by formgen on \x7b\x7b generated_at \x7d\x7d",
   "FROM mcr.microsoft.com/dotnet/sdk:8.0 AS build",
   "WORKDIR /src",
   "COPY Backend/ ./Backend/",
   "COPY \x7b\x7b entity_name \x7d\x7d.csproj ./",
   "RUN dotnet restore \x7b\x7b entity_name \x7d\x7d.csproj",
   "RUN dotnet publish \x7b\x7b entity_name \x7d\x7d.csproj -c Release -o /app/publish --no-restore",
   "",
   "FROM mcr.microsoft.com/dotnet/aspnet:8.0 AS runtime",
   "WORKDIR /app",
   "COPY --from=build /app/publish .",
   "ENV ASPNETCORE_URLS=http://+:8080",
   "EXPOSE 8080",
   "ENTRYPOINT [\"dotnet\", \"\x7b\x7b namespace \x7d\x7d.dll\"]"]

/-- The template file `deployment/appsettings.json.tera`. -/
def appsettingsJson : String := ofLines
  ["\x7b",
   "  \"Logging\": \x7b",
   "    \"LogLevel\": \x7b",
   "      \"Default\": \"Information\",",
   "      \"Microsoft.AspNetCore\": \"Warning\"",
   "    \x7d",
   "  \x7d,",
   "  \"AllowedHosts\": \"*\",",
   "  \"ConnectionStrings\": \x7b",
   "    \"DefaultConnection\": \"Server=localhost;Database=\x7b\x7b project_name \x7d\x7d;Trusted_Connection=True;TrustServerCertificate=True\"",
   "  \x7d,",
   "  \"Application\": \x7b",
   "    \"Name\": \x7b\x7b namespace | json_encode() \x7d\x7d,",
   "    \"Entity\": \x7b\x7b entity_name | json_encode() \x7d\x7d,",
   "    \"GeneratedAt\": \x7b\x7b generated_at | json_encode() \x7d\x7d\x7b% if custom_settings | length > 0 %\x7d,",
   "    \"Settings\": \x7b",
   "\x7b% for key, value in custom_settings %\x7d      \x7b\x7b key | json_encode() \x7d\x7d: \x7b\x7b value | json_encode() \x7d\x7d\x7b% if not loop.last %\x7d,\x7b% endif %\x7d",
   "\x7b% endfor %\x7d    \x7d\x7b% endif %\x7d",
   "  \x7d",
   "\x7d"]

/-- The template file `deployment/ci_pipeline.yml.tera`. -/
def ciPipelineYml : String := ofLines
  ["# Generated by formgen on \x7b\x7b generated_at \x7d\x7d",
   "name: Build \x7b\x7b entity_name \x7d\x7d",
   "",
   "on:",
   "  push:",
   "    branches: [main]",
   "  pull_request:",
   "    branches: [main]",
   "",
   "env:",
   "  DOTNET_VERSION: \"8.0.x\"",
   "  PROJECT_FILE: \x7b\x7b entity_name \x7d\x7d.csproj",
   "",
   "jobs:",
   "  build:",
   "    runs-on: ubuntu-latest",
   "    steps:",
   "      - uses: actions/checkout@v4",
   "",
   "      - name: Set up .NET",
   "        uses: actions/setup-dotnet@v4",
   "        with:",
   "          dotnet-version: \"8.0.x\"",
   "",
   "      - name: Restore",
   "        run: dotnet restore \"$PROJECT_FILE\"",
   "",
   "      - name: Build",
   "        run: dotnet build \"$PROJECT_FILE\" --configuration Release --no-restore",
   "",
   "      - name: Test",
   "        run: dotnet test --configuration Release --no-build --verbosity normal",
   "",
   "  docker:",
   "    needs: build",
   "    runs-on: ubuntu-latest",
   "    if: github.ref == 'refs/heads/main'",
   "    steps:",
   "      - uses: actions/checkout@v4",
   "",
   "      - name: Build image",
   "        run: docker build -t \x7b\x7b entity_name_snake \x7d\x7d:latest ."]

/-- The template file `deployment/project_file.csproj.tera`. -/
def projectFileCsproj : String := ofLines
  ["<Project Sdk=\"Microsoft.NET.Sdk.Web\">",
   "  <!-- Generated by formgen on \x7b\x7b generated_at \x7d\x7d -->",
   "  <PropertyGroup>",
   "    <TargetFramework>net8.0</TargetFramework>",
   "    <Nullable>enable</Nullable>",
   "    <ImplicitUsings>enable</ImplicitUsings>",
   "    <RootNamespace>\x7b\x7b namespace \x7d\x7d</RootNamespace>",
   "    <AssemblyName>\x7b\x7b namespace \x7d\x7d</AssemblyName>\x7b% if author %\x7d",
   "    <Authors>\x7b\x7b author \x7d\x7d</Authors>\x7b% endif %\x7d\x7b% if description %\x7d",
   "    <Description>\x7b\x7b description \x7d\x7d</Description>\x7b% endif %\x7d",
   "  </PropertyGroup>",
   "",
   "  <ItemGroup>",
   "    <PackageReference Include=\"AutoMapper\" Version=\"12.0.1\" />",
   "    <PackageReference Include=\"AutoMapper.Extensions.Microsoft.DependencyInjection\" Version=\"12.0.1\" />",
   "    <PackageReference Include=\"Dapper\" Version=\"2.1.35\" />",
   "    <PackageReference Include=\"FluentValidation.AspNetCore\" Version=\"11.3.0\" />",
   "    <PackageReference Include=\"Microsoft.Data.SqlClient\" Version=\"5.2.1\" />",
   "    <PackageReference Include=\"Swashbuckle.AspNetCore\" Version=\"6.6.2\" />",
   "\x7b% for package, version in additional_imports %\x7d    <PackageReference Include=\"\x7b\x7b package \x7d\x7d\" Version=\"\x7b\x7b version \x7d\x7d\" />",
   "\x7b% endfor %\x7d  </ItemGroup>",
   "</Project>"]

end FormScaffold.Shipped
