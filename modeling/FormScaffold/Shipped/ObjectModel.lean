import FormScaffold.Shipped.Lines

/-!
# Shipped templates: ObjectModel

Classes of the object model and of the service around it, and the tests of the entity.
-/

namespace FormScaffold.Shipped

/-- The template file `object_model/controller.cs.tera`. -/
def controllerCs : String := ofLines
  ["// <auto-generated>",
   "//     Generated by formgen on \x7b\x7b generated_at \x7d\x7d.",
   "// </auto-generated>",
   "using AutoMapper;",
   "using FluentValidation;",
   "using Microsoft.AspNetCore.Mvc;",
   "using \x7b\x7b namespace \x7d\x7d.Models.DTOs;",
   "using \x7b\x7b namespace \x7d\x7d.Models.Entities;",
   "using \x7b\x7b namespace \x7d\x7d.Repositories.Interfaces;",
   "",
   "namespace \x7b\x7b namespace \x7d\x7d.Controllers;",
   "",
   "[ApiController]",
   "[Route(\"api/\x7b\x7b entity_name_camel_plural \x7d\x7d\")]",
   "public class \x7b\x7b entity_name \x7d\x7dController : ControllerBase",
   "\x7b",
   "    private readonly I\x7b\x7b entity_name \x7d\x7dRepository _repository;",
   "    private readonly IMapper _mapper;",
   "    private readonly IValidator<Create\x7b\x7b entity_name \x7d\x7dDto> _validator;",
   "    private readonly ILogger<\x7b\x7b entity_name \x7d\x7dController> _logger;",
   "",
   "    public \x7b\x7b entity_name \x7d\x7dController(",
   "        I\x7b\x7b entity_name \x7d\x7dRepository repository,",
   "        IMapper mapper,",
   "        IValidator<Create\x7b\x7b entity_name \x7d\x7dDto> validator,",
   "        ILogger<\x7b\x7b entity_name \x7d\x7dController> logger)",
   "    \x7b",
   "        _repository = repository;",
   "        _mapper = mapper;",
   "        _validator = validator;",
   "        _logger = logger;",
   "    \x7d",
   "",
   "    [HttpGet]",
   "    public async Task<ActionResult<IEnumerable<\x7b\x7b entity_name \x7d\x7dDto>>> GetAll(CancellationToken cancellationToken)",
   "    \x7b",
   "        var \x7b\x7b entity_name_camel_plural \x7d\x7d = await _repository.GetAllAsync(cancellationToken);",
   "        return Ok(_mapper.Map<IEnumerable<\x7b\x7b entity_name \x7d\x7dDto>>(\x7b\x7b entity_name_camel_plural \x7d\x7d));",
   "    \x7d",
   "",
   "    [HttpGet(\"\x7bid:int\x7d\")]",
   "    public async Task<ActionResult<\x7b\x7b entity_name \x7d\x7dDto>> GetById(int id, CancellationToken cancellationToken)",
   "    \x7b",
   "        var \x7b\x7b entity_name_camel \x7d\x7d = await _repository.GetByIdAsync(id, cancellationToken);",
   "        if (\x7b\x7b entity_name_camel \x7d\x7d is null)",
   "        \x7b",
   "            return NotFound();",
   "        \x7d",
   "        return Ok(_mapper.Map<\x7b\x7b entity_name \x7d\x7dDto>(\x7b\x7b entity_name_camel \x7d\x7d));",
   "    \x7d",
   "",
   "    [HttpPost]",
   "    public async Task<ActionResult<\x7b\x7b entity_name \x7d\x7dDto>> Create(Create\x7b\x7b entity_name \x7d\x7dDto request, CancellationToken cancellationToken)",
   "    \x7b",
   "        var validation = await _validator.ValidateAsync(request, cancellationToken);",
   "        if (!validation.IsValid)",
   "        \x7b",
   "            return ValidationProblem(new ValidationProblemDetails(validation.ToDictionary()));",
   "        \x7d",
   "",
   "        var \x7b\x7b entity_name_camel \x7d\x7d = _mapper.Map<\x7b\x7b entity_name \x7d\x7d>(request);",
   "        \x7b\x7b entity_name_camel \x7d\x7d.Id = await _repository.CreateAsync(\x7b\x7b entity_name_camel \x7d\x7d, cancellationToken);",
   "        _logger.LogInformation(\"Created \x7b\x7b entity_name \x7d\x7d \x7bId\x7d\", \x7b\x7b entity_name_camel \x7d\x7d.Id);",
   "",
   "        var dto = _mapper.Map<\x7b\x7b entity_name \x7d\x7dDto>(\x7b\x7b entity_name_camel \x7d\x7d);",
   "        return CreatedAtAction(nameof(GetById), new \x7b id = dto.Id \x7d, dto);",
   "    \x7d",
   "",
   "    [HttpPut(\"\x7bid:int\x7d\")]",
   "    public async Task<IActionResult> Update(int id, Create\x7b\x7b entity_name \x7d\x7dDto request, CancellationToken cancellationToken)",
   "    \x7b",
   "        var validation = await _validator.ValidateAsync(request, cancellationToken);",
   "        if (!validation.IsValid)",
   "        \x7b",
   "            return ValidationProblem(new ValidationProblemDetails(validation.ToDictionary()));",
   "        \x7d",
   "",
   "        var \x7b\x7b entity_name_camel \x7d\x7d = _mapper.Map<\x7b\x7b entity_name \x7d\x7d>(request);",
   "        \x7b\x7b entity_name_camel \x7d\x7d.Id = id;",
   "        return await _repository.UpdateAsync(\x7b\x7b entity_name_camel \x7d\x7d, cancellationToken) ? NoContent() : NotFound();",
   "    \x7d",
   "",
   "    [HttpDelete(\"\x7bid:int\x7d\")]",
   "    public async Task<IActionResult> Delete(int id, CancellationToken cancellationToken)",
   "    \x7b",
   "        return await _repository.DeleteAsync(id, cancellationToken) ? NoContent() : NotFound();",
   "    \x7d",
   "\x7d"]

/-- The template file `object_model/dto.cs.tera`. -/
def dtoCs : String := ofLines
  ["// <auto-generated>",
   "//     Generated by formgen on \x7b\x7b generated_at \x7d\x7d.",
   "// </auto-generated>",
   "namespace \x7b\x7b namespace \x7d\x7d.Models.DTOs;",
   "",
   "public class \x7b\x7b entity_name \x7d\x7dDto",
   "\x7b",
   "    public int Id \x7b get; set; \x7d",
   "\x7b% for f in fields %\x7d",
   "    public \x7b\x7b f.object_type \x7d\x7d \x7b\x7b f.pascal_name \x7d\x7d \x7b get; set; \x7d\x7b% if f.required and f.object_type == \"string\" %\x7d = string.Empty;\x7b% endif %\x7d",
   "\x7b% endfor %\x7d",
   "    public DateTime CreatedAt \x7b get; set; \x7d",
   "",
   "    public DateTime? UpdatedAt \x7b get; set; \x7d",
   "\x7d",
   "",
   "public class Create\x7b\x7b entity_name \x7d\x7dDto",
   "\x7b",
   "\x7b% for f in fields %\x7d    public \x7b\x7b f.object_type \x7d\x7d \x7b\x7b f.pascal_name \x7d\x7d \x7b get; set; \x7d\x7b% if f.required and f.object_type == \"string\" %\x7d = string.Empty;\x7b% endif %\x7d",
   "\x7b% if not loop.last %\x7d",
   "\x7b% endif %\x7d\x7b% endfor %\x7d\x7d"]

/-- The template file `object_model/entity.cs.tera`. -/
def entityCs : String := ofLines
  ["// <auto-generated>",
   "//     Generated by formgen on \x7b\x7b generated_at \x7d\x7d\x7b% if author %\x7d for \x7b\x7b author \x7d\x7d\x7b% endif %\x7d.",
   "// </auto-generated>",
   "using System;",
   "using System.ComponentModel.DataAnnotations;",
   "\x7b% for key, ns in additional_imports %\x7dusing \x7b\x7b ns \x7d\x7d;",
   "\x7b% endfor %\x7d",
   "namespace \x7b\x7b namespace \x7d\x7d.Models.Entities;",
   "",
   "\x7b% if description %\x7d/// <summary>",
   "/// \x7b\x7b description \x7d\x7d",
   "/// </summary>",
   "\x7b% endif %\x7dpublic class \x7b\x7b entity_name \x7d\x7d",
   "\x7b",
   "    [Key]",
   "    public int Id \x7b get; set; \x7d",
   "\x7b% for f in fields %\x7d",
   "\x7b% if f.required %\x7d    [Required]",
   "\x7b% endif %\x7d\x7b% if f.max_length and f.object_type == \"string\" and f.field_type != \"textarea\" %\x7d    [MaxLength(\x7b\x7b f.max_length \x7d\x7d)]",
   "\x7b% endif %\x7d    public \x7b\x7b f.object_type \x7d\x7d \x7b\x7b f.pascal_name \x7d\x7d \x7b get; set; \x7d\x7b% if f.required and f.object_type == \"string\" %\x7d = string.Empty;\x7b% endif %\x7d",
   "\x7b% endfor %\x7d",
   "    public DateTime CreatedAt \x7b get; set; \x7d = DateTime.UtcNow;",
   "",
   "    public DateTime? UpdatedAt \x7b get; set; \x7d",
   "\x7d"]

/-- The template file `object_model/mapping_profile.cs.tera`. -/
def mappingProfileCs : String := ofLines
  ["// <auto-generated>",
   "//     Generated by formgen on \x7b\x7b generated_at \x7d\x7d.",
   "// </auto-generated>",
   "using AutoMapper;",
   "using \x7b\x7b namespace \x7d\x7d.Models.DTOs;",
   "using \x7b\x7b namespace \x7d\x7d.Models.Entities;",
   "",
   "namespace \x7b\x7b namespace \x7d\x7d.Mappings;",
   "",
   "public class \x7b\x7b entity_name \x7d\x7dMappingProfile : Profile",
   "\x7b",
   "    public \x7b\x7b entity_name \x7d\x7dMappingProfile()",
   "    \x7b",
   "        CreateMap<\x7b\x7b entity_name \x7d\x7d, \x7b\x7b entity_name \x7d\x7dDto>();",
   "        CreateMap<Create\x7b\x7b entity_name \x7d\x7dDto, \x7b\x7b entity_name \x7d\x7d>()",
   "            .ForMember(dest => dest.Id, opt => opt.Ignore())",
   "            .ForMember(dest => dest.CreatedAt, opt => opt.Ignore())",
   "            .ForMember(dest => dest.UpdatedAt, opt => opt.Ignore());",
   "    \x7d",
   "\x7d"]

/-- The template file `object_model/repository.cs.tera`. -/
def repositoryCs : String := ofLines
  ["// <auto-generated>",
   "//     Generated by formgen on \x7b\x7b generated_at \x7d\x7d.",
   "// </auto-generated>",
   "using System.Data;",
   "using Dapper;",
   "using Microsoft.Data.SqlClient;",
   "using Microsoft.Extensions.Configuration;",
   "using \x7b\x7b namespace \x7d\x7d.Models.Entities;",
   "using \x7b\x7b namespace \x7d\x7d.Repositories.Interfaces;",
   "",
   "namespace \x7b\x7b namespace \x7d\x7d.Repositories;",
   "",
   "public class \x7b\x7b entity_name \x7d\x7dRepository : I\x7b\x7b entity_name \x7d\x7dRepository",
   "\x7b",
   "    private readonly string _connectionString;",
   "",
   "    public \x7b\x7b entity_name \x7d\x7dRepository(IConfiguration configuration)",
   "    \x7b",
   "        _connectionString = configuration.GetConnectionString(\"DefaultConnection\")",
   "            ?? throw new InvalidOperationException(\"Connection string 'DefaultConnection' is not configured.\");",
   "    \x7d",
   "",
   "    private IDbConnection CreateConnection() => new SqlConnection(_connectionString);",
   "",
   "    public async Task<IReadOnlyList<\x7b\x7b entity_name \x7d\x7d>> GetAllAsync(CancellationToken cancellationToken = default)",
   "    \x7b",
   "        using var connection = CreateConnection();",
   "        var command = new CommandDefinition(",
   "            \"dbo.usp_\x7b\x7b entity_name \x7d\x7d_GetAll\",",
   "            commandType: CommandType.StoredProcedure,",
   "            cancellationToken: cancellationToken);",
   "        var rows = await connection.QueryAsync<\x7b\x7b entity_name \x7d\x7d>(command);",
   "        return rows.ToList();",
   "    \x7d",
   "",
   "    public async Task<\x7b\x7b entity_name \x7d\x7d?> GetByIdAsync(int id, CancellationToken cancellationToken = default)",
   "    \x7b",
   "        using var connection = CreateConnection();",
   "        var command = new CommandDefinition(",
   "            \"dbo.usp_\x7b\x7b entity_name \x7d\x7d_GetById\",",
   "            new \x7b Id = id \x7d,",
   "            commandType: CommandType.StoredProcedure,",
   "            cancellationToken: cancellationToken);",
   "        return await connection.QuerySingleOrDefaultAsync<\x7b\x7b entity_name \x7d\x7d>(command);",
   "    \x7d",
   "",
   "    public async Task<int> CreateAsync(\x7b\x7b entity_name \x7d\x7d \x7b\x7b entity_name_camel \x7d\x7d, CancellationToken cancellationToken = default)",
   "    \x7b",
   "        using var connection = CreateConnection();",
   "        var parameters = new DynamicParameters();",
   "\x7b% for f in fields %\x7d        parameters.Add(\"\x7b\x7b f.pascal_name \x7d\x7d\", \x7b\x7b entity_name_camel \x7d\x7d.\x7b\x7b f.pascal_name \x7d\x7d);",
   "\x7b% endfor %\x7d        var command = new CommandDefinition(",
   "            \"dbo.usp_\x7b\x7b entity_name \x7d\x7d_Insert\",",
   "            parameters,",
   "            commandType: CommandType.StoredProcedure,",
   "            cancellationToken: cancellationToken);",
   "        return await connection.ExecuteScalarAsync<int>(command);",
   "    \x7d",
   "",
   "    public async Task<bool> UpdateAsync(\x7b\x7b entity_name \x7d\x7d \x7b\x7b entity_name_camel \x7d\x7d, CancellationToken cancellationToken = default)",
   "    \x7b",
   "        using var connection = CreateConnection();",
   "        var parameters = new DynamicParameters();",
   "        parameters.Add(\"Id\", \x7b\x7b entity_name_camel \x7d\x7d.Id);",
   "\x7b% for f in fields %\x7d        parameters.Add(\"\x7b\x7b f.pascal_name \x7d\x7d\", \x7b\x7b entity_name_camel \x7d\x7d.\x7b\x7b f.pascal_name \x7d\x7d);",
   "\x7b% endfor %\x7d        var command = new CommandDefinition(",
   "            \"dbo.usp_\x7b\x7b entity_name \x7d\x7d_Update\",",
   "            parameters,",
   "            commandType: CommandType.StoredProcedure,",
   "            cancellationToken: cancellationToken);",
   "        return await connection.ExecuteScalarAsync<int>(command) > 0;",
   "    \x7d",
   "",
   "    public async Task<bool> DeleteAsync(int id, CancellationToken cancellationToken = default)",
   "    \x7b",
   "        using var connection = CreateConnection();",
   "        var command = new CommandDefinition(",
   "            \"dbo.usp_\x7b\x7b entity_name \x7d\x7d_Delete\",",
   "            new \x7b Id = id \x7d,",
   "            commandType: CommandType.StoredProcedure,",
   "            cancellationToken: cancellationToken);",
   "        return await connection.ExecuteScalarAsync<int>(command) > 0;",
   "    \x7d",
   "\x7d"]

/-- The template file `object_model/repository_interface.cs.tera`. -/
def repositoryInterfaceCs : String := ofLines
  ["// <auto-generated>",
   "//     Generated by formgen on \x7b\x7b generated_at \x7d\x7d.",
   "// </auto-generated>",
   "using \x7b\x7b namespace \x7d\x7d.Models.Entities;",
   "",
   "namespace \x7b\x7b namespace \x7d\x7d.Repositories.Interfaces;",
   "",
   "public interface I\x7b\x7b entity_name \x7d\x7dRepository",
   "\x7b",
   "    Task<IReadOnlyList<\x7b\x7b entity_name \x7d\x7d>> GetAllAsync(CancellationToken cancellationToken = default);",
   "",
   "    Task<\x7b\x7b entity_name \x7d\x7d?> GetByIdAsync(int id, CancellationToken cancellationToken = default);",
   "",
   "    Task<int> CreateAsync(\x7b\x7b entity_name \x7d\x7d \x7b\x7b entity_name_camel \x7d\x7d, CancellationToken cancellationToken = default);",
   "",
   "    Task<bool> UpdateAsync(\x7b\x7b entity_name \x7d\x7d \x7b\x7b entity_name_camel \x7d\x7d, CancellationToken cancellationToken = default);",
   "",
   "    Task<bool> DeleteAsync(int id, CancellationToken cancellationToken = default);",
   "\x7d"]

/-- The template file `object_model/validator.cs.tera`. -/
def validatorCs : String := ofLines
  ["// <auto-generated>",
   "//     Generated by formgen on \x7b\x7b generated_at \x7d\x7d.",
   "// </auto-generated>",
   "using FluentValidation;",
   "using \x7b\x7b namespace \x7d\x7d.Models.DTOs;",
   "",
   "namespace \x7b\x7b namespace \x7d\x7d.Validation;",
   "",
   "public class \x7b\x7b entity_name \x7d\x7dValidator : AbstractValidator<Create\x7b\x7b entity_name \x7d\x7dDto>",
   "\x7b",
   "    public \x7b\x7b entity_name \x7d\x7dValidator()",
   "    \x7b",
   "\x7b% for f in fields %\x7d\x7b% set bounded = f.object_type == \"string\" and f.max_length and f.field_type != \"textarea\" %\x7d\x7b% set has_rules = f.required or bounded or f.min_length or f.field_type == \"email\" or f.pattern %\x7d\x7b% if has_rules %\x7d        RuleFor(x => x.\x7b\x7b f.pascal_name \x7d\x7d)\x7b% if f.required %\x7d",
   "            .NotEmpty().WithMessage(\"\x7b\x7b f.label \x7d\x7d is required.\")\x7b% endif %\x7d\x7b% if bounded %\x7d",
   "            .MaximumLength(\x7b\x7b f.max_length \x7d\x7d)\x7b% endif %\x7d\x7b% if f.object_type == \"string\" and f.min_length %\x7d",
   "            .MinimumLength(\x7b\x7b f.min_length \x7d\x7d)\x7b% endif %\x7d\x7b% if f.field_type == \"email\" %\x7d",
   "            .EmailAddress()\x7b% endif %\x7d\x7b% if f.pattern %\x7d",
   "            .Matches(@\"\x7b\x7b f.pattern | replace(from='\"', to='\"\"') \x7d\x7d\")\x7b% endif %\x7d;",
   "\x7b% endif %\x7d\x7b% endfor %\x7d    \x7d",
   "\x7d"]

/-!
## Unit tests

Unit tests of the entity.
-/

/-- The template file `tests/entity_tests.cs.tera`. -/
def entityTestsCs : String := ofLines
  ["// <auto-generated>",
   "//     Generated by formgen on \x7b\x7b generated_at \x7d\x7d.",
   "// </auto-generated>",
   "using FluentValidation.TestHelper;",
   "using \x7b\x7b namespace \x7d\x7d.Models.DTOs;",
   "using \x7b\x7b namespace \x7d\x7d.Validation;",
   "using Xunit;",
   "",
   "namespace \x7b\x7b namespace \x7d\x7d.Tests.Unit;",
   "",
   "public class \x7b\x7b entity_name \x7d\x7dTests",
   "\x7b",
   "    private readonly \x7b\x7b entity_name \x7d\x7dValidator _validator = new();",
   "",
   "    private static Create\x7b\x7b entity_name \x7d\x7dDto ValidDto() => new()",
   "    \x7b",
   "\x7b% for f in fields %\x7d\x7b% if f.required %\x7d\x7b% if f.frontend_type == \"string\" %\x7d        \x7b\x7b f.pascal_name \x7d\x7d = \"\x7b% if f.field_type == \"email\" %\x7duser@example.com\x7b% elif f.field_type == \"url\" %\x7dhttps://example.com\x7b% else %\x7d\x7b\x7b f.pascal_name \x7d\x7d\x7b% endif %\x7d\",",
   "\x7b% elif f.object_type == \"int\" or f.object_type == \"decimal\" %\x7d        \x7b\x7b f.pascal_name \x7d\x7d = 1,",
   "\x7b% elif f.object_type == \"bool\" %\x7d        \x7b\x7b f.pascal_name \x7d\x7d = true,",
   "\x7b% elif f.object_type == \"DateOnly\" %\x7d        \x7b\x7b f.pascal_name \x7d\x7d = DateOnly.FromDateTime(DateTime.UtcNow),",
   "\x7b% elif f.object_type == \"DateTime\" %\x7d        \x7b\x7b f.pascal_name \x7d\x7d = DateTime.UtcNow,",
   "\x7b% endif %\x7d\x7b% endif %\x7d\x7b% endfor %\x7d    \x7d;",
   "",
   "    [Fact]",
   "    public void Valid\x7b\x7b entity_name \x7d\x7d_PassesValidation()",
   "    \x7b",
   "        var result = _validator.TestValidate(ValidDto());",
   "        result.ShouldNotHaveAnyValidationErrors();",
   "    \x7d",
   "\x7b% for f in fields %\x7d\x7b% if f.required and f.object_type == \"string\" %\x7d",
   "    [Fact]",
   "    public void Missing\x7b\x7b f.pascal_name \x7d\x7d_FailsValidation()",
   "    \x7b",
   "        var dto = ValidDto();",
   "        dto.\x7b\x7b f.pascal_name \x7d\x7d = string.Empty;",
   "        var result = _validator.TestValidate(dto);",
   "        result.ShouldHaveValidationErrorFor(x => x.\x7b\x7b f.pascal_name \x7d\x7d);",
   "    \x7d",
   "\x7b% endif %\x7d\x7b% endfor %\x7d\x7d"]

end FormScaffold.Shipped
