import SymbolIndex.Unicode.Table

/-!
# Compatibility decomposition

What each character stands for once compatibility and canonical composites are taken apart:
`decompose` is the full compatibility decomposition of one character. Hangul syllables are
taken apart by arithmetic, all others by table (Unicode 14.0).
-/

namespace SymbolIndex.Unicode

namespace Decomposition

def rows0080 : Table := [
  (0x2, [0xa0000020, 0xa8000020000308, 0xaa000061, 0xaf000020000304, 0xb2000032, 0xb3000033,
    0xb4000020000301, 0xb50003bc, 0xb8000020000327, 0xb9000031, 0xba00006f, 0xbc000031002044000034,
    0xbd000031002044000032, 0xbe000033002044000034]),
  (0x3, [0xc0000041000300, 0xc1000041000301, 0xc2000041000302, 0xc3000041000303, 0xc4000041000308,
    0xc500004100030a, 0xc7000043000327, 0xc8000045000300, 0xc9000045000301, 0xca000045000302,
    0xcb000045000308, 0xcc000049000300, 0xcd000049000301, 0xce000049000302, 0xcf000049000308,
    0xd100004e000303, 0xd200004f000300, 0xd300004f000301, 0xd400004f000302, 0xd500004f000303,
    0xd600004f000308, 0xd9000055000300, 0xda000055000301, 0xdb000055000302, 0xdc000055000308,
    0xdd000059000301, 0xe0000061000300, 0xe1000061000301, 0xe2000061000302, 0xe3000061000303,
    0xe4000061000308, 0xe500006100030a, 0xe7000063000327, 0xe8000065000300, 0xe9000065000301,
    0xea000065000302, 0xeb000065000308, 0xec000069000300, 0xed000069000301, 0xee000069000302,
    0xef000069000308, 0xf100006e000303, 0xf200006f000300, 0xf300006f000301, 0xf400006f000302,
    0xf500006f000303, 0xf600006f000308, 0xf9000075000300, 0xfa000075000301, 0xfb000075000302,
    0xfc000075000308, 0xfd000079000301, 0xff000079000308]),
  (0x4, [0x100000041000304, 0x101000061000304, 0x102000041000306, 0x103000061000306,
    0x104000041000328, 0x105000061000328, 0x106000043000301, 0x107000063000301, 0x108000043000302,
    0x109000063000302, 0x10a000043000307, 0x10b000063000307, 0x10c00004300030c, 0x10d00006300030c,
    0x10e00004400030c, 0x10f00006400030c, 0x112000045000304, 0x113000065000304, 0x114000045000306,
    0x115000065000306, 0x116000045000307, 0x117000065000307, 0x118000045000328, 0x119000065000328,
    0x11a00004500030c, 0x11b00006500030c, 0x11c000047000302, 0x11d000067000302, 0x11e000047000306,
    0x11f000067000306, 0x120000047000307, 0x121000067000307, 0x122000047000327, 0x123000067000327,
    0x124000048000302, 0x125000068000302, 0x128000049000303, 0x129000069000303, 0x12a000049000304,
    0x12b000069000304, 0x12c000049000306, 0x12d000069000306, 0x12e000049000328, 0x12f000069000328,
    0x130000049000307, 0x13200004900004a, 0x13300006900006a, 0x13400004a000302, 0x13500006a000302,
    0x13600004b000327, 0x13700006b000327, 0x13900004c000301, 0x13a00006c000301, 0x13b00004c000327,
    0x13c00006c000327, 0x13d00004c00030c, 0x13e00006c00030c, 0x13f00004c0000b7]),
  (0x5, [0x14000006c0000b7, 0x14300004e000301, 0x14400006e000301, 0x14500004e000327,
    0x14600006e000327, 0x14700004e00030c, 0x14800006e00030c, 0x1490002bc00006e, 0x14c00004f000304,
    0x14d00006f000304, 0x14e00004f000306, 0x14f00006f000306, 0x15000004f00030b, 0x15100006f00030b,
    0x154000052000301, 0x155000072000301, 0x156000052000327, 0x157000072000327, 0x15800005200030c,
    0x15900007200030c, 0x15a000053000301, 0x15b000073000301, 0x15c000053000302, 0x15d000073000302,
    0x15e000053000327, 0x15f000073000327, 0x16000005300030c, 0x16100007300030c, 0x162000054000327,
    0x163000074000327, 0x16400005400030c, 0x16500007400030c, 0x168000055000303, 0x169000075000303,
    0x16a000055000304, 0x16b000075000304, 0x16c000055000306, 0x16d000075000306, 0x16e00005500030a,
    0x16f00007500030a, 0x17000005500030b, 0x17100007500030b, 0x172000055000328, 0x173000075000328,
    0x174000057000302, 0x175000077000302, 0x176000059000302, 0x177000079000302, 0x178000059000308,
    0x17900005a000301, 0x17a00007a000301, 0x17b00005a000307, 0x17c00007a000307, 0x17d00005a00030c,
    0x17e00007a00030c, 0x17f000073]),
  (0x6, [0x1a000004f00031b, 0x1a100006f00031b, 0x1af00005500031b, 0x1b000007500031b]),
  (0x7, [0x1c400004400005a00030c, 0x1c500004400007a00030c, 0x1c600006400007a00030c,
    0x1c700004c00004a, 0x1c800004c00006a, 0x1c900006c00006a, 0x1ca00004e00004a, 0x1cb00004e00006a,
    0x1cc00006e00006a, 0x1cd00004100030c, 0x1ce00006100030c, 0x1cf00004900030c, 0x1d000006900030c,
    0x1d100004f00030c, 0x1d200006f00030c, 0x1d300005500030c, 0x1d400007500030c,
    0x1d5000055000308000304, 0x1d6000075000308000304, 0x1d7000055000308000301,
    0x1d8000075000308000301, 0x1d900005500030800030c, 0x1da00007500030800030c,
    0x1db000055000308000300, 0x1dc000075000308000300, 0x1de000041000308000304,
    0x1df000061000308000304, 0x1e0000041000307000304, 0x1e1000061000307000304, 0x1e20000c6000304,
    0x1e30000e6000304, 0x1e600004700030c, 0x1e700006700030c, 0x1e800004b00030c, 0x1e900006b00030c,
    0x1ea00004f000328, 0x1eb00006f000328, 0x1ec00004f000328000304, 0x1ed00006f000328000304,
    0x1ee0001b700030c, 0x1ef00029200030c, 0x1f000006a00030c, 0x1f100004400005a, 0x1f200004400007a,
    0x1f300006400007a, 0x1f4000047000301, 0x1f5000067000301, 0x1f800004e000300, 0x1f900006e000300,
    0x1fa00004100030a000301, 0x1fb00006100030a000301, 0x1fc0000c6000301, 0x1fd0000e6000301,
    0x1fe0000d8000301, 0x1ff0000f8000301]),
  (0x8, [0x20000004100030f, 0x20100006100030f, 0x202000041000311, 0x203000061000311,
    0x20400004500030f, 0x20500006500030f, 0x206000045000311, 0x207000065000311, 0x20800004900030f,
    0x20900006900030f, 0x20a000049000311, 0x20b000069000311, 0x20c00004f00030f, 0x20d00006f00030f,
    0x20e00004f000311, 0x20f00006f000311, 0x21000005200030f, 0x21100007200030f, 0x212000052000311,
    0x213000072000311, 0x21400005500030f, 0x21500007500030f, 0x216000055000311, 0x217000075000311,
    0x218000053000326, 0x219000073000326, 0x21a000054000326, 0x21b000074000326, 0x21e00004800030c,
    0x21f00006800030c, 0x226000041000307, 0x227000061000307, 0x228000045000327, 0x229000065000327,
    0x22a00004f000308000304, 0x22b00006f000308000304, 0x22c00004f000303000304,
    0x22d00006f000303000304, 0x22e00004f000307, 0x22f00006f000307, 0x23000004f000307000304,
    0x23100006f000307000304, 0x232000059000304, 0x233000079000304]),
  (0xa, [0x2b0000068, 0x2b1000266, 0x2b200006a, 0x2b3000072, 0x2b4000279, 0x2b500027b, 0x2b6000281,
    0x2b7000077, 0x2b8000079]),
  (0xb, [0x2d8000020000306, 0x2d9000020000307, 0x2da00002000030a, 0x2db000020000328,
    0x2dc000020000303, 0x2dd00002000030b, 0x2e0000263, 0x2e100006c, 0x2e2000073, 0x2e3000078,
    0x2e4000295]),
  (0xd, [0x340000300, 0x341000301, 0x343000313, 0x344000308000301, 0x3740002b9, 0x37a000020000345,
    0x37e00003b]),
  (0xe, [0x384000020000301, 0x385000020000308000301, 0x386000391000301, 0x3870000b7,
    0x388000395000301, 0x389000397000301, 0x38a000399000301, 0x38c00039f000301, 0x38e0003a5000301,
    0x38f0003a9000301, 0x3900003b9000308000301, 0x3aa000399000308, 0x3ab0003a5000308,
    0x3ac0003b1000301, 0x3ad0003b5000301, 0x3ae0003b7000301, 0x3af0003b9000301,
    0x3b00003c5000308000301]),
  (0xf, [0x3ca0003b9000308, 0x3cb0003c5000308, 0x3cc0003bf000301, 0x3cd0003c5000301,
    0x3ce0003c9000301, 0x3d00003b2, 0x3d10003b8, 0x3d20003a5, 0x3d30003a5000301, 0x3d40003a5000308,
    0x3d50003c6, 0x3d60003c0, 0x3f00003ba, 0x3f10003c1, 0x3f20003c2, 0x3f4000398, 0x3f50003b5,
    0x3f90003a3]),
  (0x10, [0x400000415000300, 0x401000415000308, 0x403000413000301, 0x407000406000308,
    0x40c00041a000301, 0x40d000418000300, 0x40e000423000306, 0x419000418000306, 0x439000438000306]),
  (0x11, [0x450000435000300, 0x451000435000308, 0x453000433000301, 0x457000456000308,
    0x45c00043a000301, 0x45d000438000300, 0x45e000443000306, 0x47600047400030f, 0x47700047500030f]),
  (0x13, [0x4c1000416000306, 0x4c2000436000306, 0x4d0000410000306, 0x4d1000430000306,
    0x4d2000410000308, 0x4d3000430000308, 0x4d6000415000306, 0x4d7000435000306, 0x4da0004d8000308,
    0x4db0004d9000308, 0x4dc000416000308, 0x4dd000436000308, 0x4de000417000308, 0x4df000437000308,
    0x4e2000418000304, 0x4e3000438000304, 0x4e4000418000308, 0x4e5000438000308, 0x4e600041e000308,
    0x4e700043e000308, 0x4ea0004e8000308, 0x4eb0004e9000308, 0x4ec00042d000308, 0x4ed00044d000308,
    0x4ee000423000304, 0x4ef000443000304, 0x4f0000423000308, 0x4f1000443000308, 0x4f200042300030b,
    0x4f300044300030b, 0x4f4000427000308, 0x4f5000447000308, 0x4f800042b000308, 0x4f900044b000308]),
  (0x16, [0x587000565000582]),
  (0x18, [0x622000627000653, 0x623000627000654, 0x624000648000654, 0x625000627000655,
    0x62600064a000654]),
  (0x19, [0x675000627000674, 0x676000648000674, 0x6770006c7000674, 0x67800064a000674]),
  (0x1b, [0x6c00006d5000654, 0x6c20006c1000654, 0x6d30006d2000654]),
  (0x24, [0x92900092800093c, 0x93100093000093c, 0x93400093300093c]),
  (0x25, [0x95800091500093c, 0x95900091600093c, 0x95a00091700093c, 0x95b00091c00093c,
    0x95c00092100093c, 0x95d00092200093c, 0x95e00092b00093c, 0x95f00092f00093c]),
  (0x27, [0x9cb0009c70009be, 0x9cc0009c70009d7, 0x9dc0009a10009bc, 0x9dd0009a20009bc,
    0x9df0009af0009bc]),
  (0x28, [0xa33000a32000a3c, 0xa36000a38000a3c]),
  (0x29, [0xa59000a16000a3c, 0xa5a000a17000a3c, 0xa5b000a1c000a3c, 0xa5e000a2b000a3c]),
  (0x2d, [0xb48000b47000b56, 0xb4b000b47000b3e, 0xb4c000b47000b57, 0xb5c000b21000b3c,
    0xb5d000b22000b3c]),
  (0x2e, [0xb94000b92000bd7]),
  (0x2f, [0xbca000bc6000bbe, 0xbcb000bc7000bbe, 0xbcc000bc6000bd7]),
  (0x31, [0xc48000c46000c56]),
  (0x33, [0xcc0000cbf000cd5, 0xcc7000cc6000cd5, 0xcc8000cc6000cd6, 0xcca000cc6000cc2,
    0xccb000cc6000cc2000cd5]),
  (0x35, [0xd4a000d46000d3e, 0xd4b000d47000d3e, 0xd4c000d46000d57]),
  (0x37, [0xdda000dd9000dca, 0xddc000dd9000dcf, 0xddd000dd9000dcf000dca, 0xdde000dd9000ddf]),
  (0x38, [0xe33000e4d000e32]),
  (0x3a, [0xeb3000ecd000eb2]),
  (0x3b, [0xedc000eab000e99, 0xedd000eab000ea1]),
  (0x3c, [0xf0c000f0b]),
  (0x3d, [0xf43000f42000fb7, 0xf4d000f4c000fb7, 0xf52000f51000fb7, 0xf57000f56000fb7,
    0xf5c000f5b000fb7, 0xf69000f40000fb5, 0xf73000f71000f72, 0xf75000f71000f74, 0xf76000fb2000f80,
    0xf77000fb2000f71000f80, 0xf78000fb3000f80, 0xf79000fb3000f71000f80]),
  (0x3e, [0xf81000f71000f80, 0xf93000f92000fb7, 0xf9d000f9c000fb7, 0xfa2000fa1000fb7,
    0xfa7000fa6000fb7, 0xfac000fab000fb7, 0xfb9000f90000fb5]),
  (0x40, [0x102600102500102e]),
  (0x43, [0x10fc0010dc]),
  (0x6c, [0x1b06001b05001b35, 0x1b08001b07001b35, 0x1b0a001b09001b35, 0x1b0c001b0b001b35,
    0x1b0e001b0d001b35, 0x1b12001b11001b35, 0x1b3b001b3a001b35, 0x1b3d001b3c001b35]),
  (0x6d, [0x1b40001b3e001b35, 0x1b41001b3f001b35, 0x1b43001b42001b35]),
  (0x74, [0x1d2c000041, 0x1d2d0000c6, 0x1d2e000042, 0x1d30000044, 0x1d31000045, 0x1d3200018e,
    0x1d33000047, 0x1d34000048, 0x1d35000049, 0x1d3600004a, 0x1d3700004b, 0x1d3800004c,
    0x1d3900004d, 0x1d3a00004e, 0x1d3c00004f, 0x1d3d000222, 0x1d3e000050, 0x1d3f000052]),
  (0x75, [0x1d40000054, 0x1d41000055, 0x1d42000057, 0x1d43000061, 0x1d44000250, 0x1d45000251,
    0x1d46001d02, 0x1d47000062, 0x1d48000064, 0x1d49000065, 0x1d4a000259, 0x1d4b00025b,
    0x1d4c00025c, 0x1d4d000067, 0x1d4f00006b, 0x1d5000006d, 0x1d5100014b, 0x1d5200006f,
    0x1d53000254, 0x1d54001d16, 0x1d55001d17, 0x1d56000070, 0x1d57000074, 0x1d58000075,
    0x1d59001d1d, 0x1d5a00026f, 0x1d5b000076, 0x1d5c001d25, 0x1d5d0003b2, 0x1d5e0003b3,
    0x1d5f0003b4, 0x1d600003c6, 0x1d610003c7, 0x1d62000069, 0x1d63000072, 0x1d64000075,
    0x1d65000076, 0x1d660003b2, 0x1d670003b3, 0x1d680003c1, 0x1d690003c6, 0x1d6a0003c7,
    0x1d7800043d]),
  (0x76, [0x1d9b000252, 0x1d9c000063, 0x1d9d000255, 0x1d9e0000f0, 0x1d9f00025c, 0x1da0000066,
    0x1da100025f, 0x1da2000261, 0x1da3000265, 0x1da4000268, 0x1da5000269, 0x1da600026a,
    0x1da7001d7b, 0x1da800029d, 0x1da900026d, 0x1daa001d85, 0x1dab00029f, 0x1dac000271,
    0x1dad000270, 0x1dae000272, 0x1daf000273, 0x1db0000274, 0x1db1000275, 0x1db2000278,
    0x1db3000282, 0x1db4000283, 0x1db50001ab, 0x1db6000289, 0x1db700028a, 0x1db8001d1c,
    0x1db900028b, 0x1dba00028c, 0x1dbb00007a, 0x1dbc000290, 0x1dbd000291, 0x1dbe000292,
    0x1dbf0003b8])]

def rows1E00 : Table := [
  (0x78, [0x1e00000041000325, 0x1e01000061000325, 0x1e02000042000307, 0x1e03000062000307,
    0x1e04000042000323, 0x1e05000062000323, 0x1e06000042000331, 0x1e07000062000331,
    0x1e08000043000327000301, 0x1e09000063000327000301, 0x1e0a000044000307, 0x1e0b000064000307,
    0x1e0c000044000323, 0x1e0d000064000323, 0x1e0e000044000331, 0x1e0f000064000331,
    0x1e10000044000327, 0x1e11000064000327, 0x1e1200004400032d, 0x1e1300006400032d,
    0x1e14000045000304000300, 0x1e15000065000304000300, 0x1e16000045000304000301,
    0x1e17000065000304000301, 0x1e1800004500032d, 0x1e1900006500032d, 0x1e1a000045000330,
    0x1e1b000065000330, 0x1e1c000045000327000306, 0x1e1d000065000327000306, 0x1e1e000046000307,
    0x1e1f000066000307, 0x1e20000047000304, 0x1e21000067000304, 0x1e22000048000307,
    0x1e23000068000307, 0x1e24000048000323, 0x1e25000068000323, 0x1e26000048000308,
    0x1e27000068000308, 0x1e28000048000327, 0x1e29000068000327, 0x1e2a00004800032e,
    0x1e2b00006800032e, 0x1e2c000049000330, 0x1e2d000069000330, 0x1e2e000049000308000301,
    0x1e2f000069000308000301, 0x1e3000004b000301, 0x1e3100006b000301, 0x1e3200004b000323,
    0x1e3300006b000323, 0x1e3400004b000331, 0x1e3500006b000331, 0x1e3600004c000323,
    0x1e3700006c000323, 0x1e3800004c000323000304, 0x1e3900006c000323000304, 0x1e3a00004c000331,
    0x1e3b00006c000331, 0x1e3c00004c00032d, 0x1e3d00006c00032d, 0x1e3e00004d000301,
    0x1e3f00006d000301]),
  (0x79, [0x1e4000004d000307, 0x1e4100006d000307, 0x1e4200004d000323, 0x1e4300006d000323,
    0x1e4400004e000307, 0x1e4500006e000307, 0x1e4600004e000323, 0x1e4700006e000323,
    0x1e4800004e000331, 0x1e4900006e000331, 0x1e4a00004e00032d, 0x1e4b00006e00032d,
    0x1e4c00004f000303000301, 0x1e4d00006f000303000301, 0x1e4e00004f000303000308,
    0x1e4f00006f000303000308, 0x1e5000004f000304000300, 0x1e5100006f000304000300,
    0x1e5200004f000304000301, 0x1e5300006f000304000301, 0x1e54000050000301, 0x1e55000070000301,
    0x1e56000050000307, 0x1e57000070000307, 0x1e58000052000307, 0x1e59000072000307,
    0x1e5a000052000323, 0x1e5b000072000323, 0x1e5c000052000323000304, 0x1e5d000072000323000304,
    0x1e5e000052000331, 0x1e5f000072000331, 0x1e60000053000307, 0x1e61000073000307,
    0x1e62000053000323, 0x1e63000073000323, 0x1e64000053000301000307, 0x1e65000073000301000307,
    0x1e6600005300030c000307, 0x1e6700007300030c000307, 0x1e68000053000323000307,
    0x1e69000073000323000307, 0x1e6a000054000307, 0x1e6b000074000307, 0x1e6c000054000323,
    0x1e6d000074000323, 0x1e6e000054000331, 0x1e6f000074000331, 0x1e7000005400032d,
    0x1e7100007400032d, 0x1e72000055000324, 0x1e73000075000324, 0x1e74000055000330,
    0x1e75000075000330, 0x1e7600005500032d, 0x1e7700007500032d, 0x1e78000055000303000301,
    0x1e79000075000303000301, 0x1e7a000055000304000308, 0x1e7b000075000304000308,
    0x1e7c000056000303, 0x1e7d000076000303, 0x1e7e000056000323, 0x1e7f000076000323]),
  (0x7a, [0x1e80000057000300, 0x1e81000077000300, 0x1e82000057000301, 0x1e83000077000301,
    0x1e84000057000308, 0x1e85000077000308, 0x1e86000057000307, 0x1e87000077000307,
    0x1e88000057000323, 0x1e89000077000323, 0x1e8a000058000307, 0x1e8b000078000307,
    0x1e8c000058000308, 0x1e8d000078000308, 0x1e8e000059000307, 0x1e8f000079000307,
    0x1e9000005a000302, 0x1e9100007a000302, 0x1e9200005a000323, 0x1e9300007a000323,
    0x1e9400005a000331, 0x1e9500007a000331, 0x1e96000068000331, 0x1e97000074000308,
    0x1e9800007700030a, 0x1e9900007900030a, 0x1e9a0000610002be, 0x1e9b000073000307,
    0x1ea0000041000323, 0x1ea1000061000323, 0x1ea2000041000309, 0x1ea3000061000309,
    0x1ea4000041000302000301, 0x1ea5000061000302000301, 0x1ea6000041000302000300,
    0x1ea7000061000302000300, 0x1ea8000041000302000309, 0x1ea9000061000302000309,
    0x1eaa000041000302000303, 0x1eab000061000302000303, 0x1eac000041000323000302,
    0x1ead000061000323000302, 0x1eae000041000306000301, 0x1eaf000061000306000301,
    0x1eb0000041000306000300, 0x1eb1000061000306000300, 0x1eb2000041000306000309,
    0x1eb3000061000306000309, 0x1eb4000041000306000303, 0x1eb5000061000306000303,
    0x1eb6000041000323000306, 0x1eb7000061000323000306, 0x1eb8000045000323, 0x1eb9000065000323,
    0x1eba000045000309, 0x1ebb000065000309, 0x1ebc000045000303, 0x1ebd000065000303,
    0x1ebe000045000302000301, 0x1ebf000065000302000301]),
  (0x7b, [0x1ec0000045000302000300, 0x1ec1000065000302000300, 0x1ec2000045000302000309,
    0x1ec3000065000302000309, 0x1ec4000045000302000303, 0x1ec5000065000302000303,
    0x1ec6000045000323000302, 0x1ec7000065000323000302, 0x1ec8000049000309, 0x1ec9000069000309,
    0x1eca000049000323, 0x1ecb000069000323, 0x1ecc00004f000323, 0x1ecd00006f000323,
    0x1ece00004f000309, 0x1ecf00006f000309, 0x1ed000004f000302000301, 0x1ed100006f000302000301,
    0x1ed200004f000302000300, 0x1ed300006f000302000300, 0x1ed400004f000302000309,
    0x1ed500006f000302000309, 0x1ed600004f000302000303, 0x1ed700006f000302000303,
    0x1ed800004f000323000302, 0x1ed900006f000323000302, 0x1eda00004f00031b000301,
    0x1edb00006f00031b000301, 0x1edc00004f00031b000300, 0x1edd00006f00031b000300,
    0x1ede00004f00031b000309, 0x1edf00006f00031b000309, 0x1ee000004f00031b000303,
    0x1ee100006f00031b000303, 0x1ee200004f00031b000323, 0x1ee300006f00031b000323,
    0x1ee4000055000323, 0x1ee5000075000323, 0x1ee6000055000309, 0x1ee7000075000309,
    0x1ee800005500031b000301, 0x1ee900007500031b000301, 0x1eea00005500031b000300,
    0x1eeb00007500031b000300, 0x1eec00005500031b000309, 0x1eed00007500031b000309,
    0x1eee00005500031b000303, 0x1eef00007500031b000303, 0x1ef000005500031b000323,
    0x1ef100007500031b000323, 0x1ef2000059000300, 0x1ef3000079000300, 0x1ef4000059000323,
    0x1ef5000079000323, 0x1ef6000059000309, 0x1ef7000079000309, 0x1ef8000059000303,
    0x1ef9000079000303]),
  (0x7c, [0x1f000003b1000313, 0x1f010003b1000314, 0x1f020003b1000313000300,
    0x1f030003b1000314000300, 0x1f040003b1000313000301, 0x1f050003b1000314000301,
    0x1f060003b1000313000342, 0x1f070003b1000314000342, 0x1f08000391000313, 0x1f09000391000314,
    0x1f0a000391000313000300, 0x1f0b000391000314000300, 0x1f0c000391000313000301,
    0x1f0d000391000314000301, 0x1f0e000391000313000342, 0x1f0f000391000314000342,
    0x1f100003b5000313, 0x1f110003b5000314, 0x1f120003b5000313000300, 0x1f130003b5000314000300,
    0x1f140003b5000313000301, 0x1f150003b5000314000301, 0x1f18000395000313, 0x1f19000395000314,
    0x1f1a000395000313000300, 0x1f1b000395000314000300, 0x1f1c000395000313000301,
    0x1f1d000395000314000301, 0x1f200003b7000313, 0x1f210003b7000314, 0x1f220003b7000313000300,
    0x1f230003b7000314000300, 0x1f240003b7000313000301, 0x1f250003b7000314000301,
    0x1f260003b7000313000342, 0x1f270003b7000314000342, 0x1f28000397000313, 0x1f29000397000314,
    0x1f2a000397000313000300, 0x1f2b000397000314000300, 0x1f2c000397000313000301,
    0x1f2d000397000314000301, 0x1f2e000397000313000342, 0x1f2f000397000314000342,
    0x1f300003b9000313, 0x1f310003b9000314, 0x1f320003b9000313000300, 0x1f330003b9000314000300,
    0x1f340003b9000313000301, 0x1f350003b9000314000301, 0x1f360003b9000313000342,
    0x1f370003b9000314000342, 0x1f38000399000313, 0x1f39000399000314, 0x1f3a000399000313000300,
    0x1f3b000399000314000300, 0x1f3c000399000313000301, 0x1f3d000399000314000301,
    0x1f3e000399000313000342, 0x1f3f000399000314000342]),
  (0x7d, [0x1f400003bf000313, 0x1f410003bf000314, 0x1f420003bf000313000300,
    0x1f430003bf000314000300, 0x1f440003bf000313000301, 0x1f450003bf000314000301,
    0x1f4800039f000313, 0x1f4900039f000314, 0x1f4a00039f000313000300, 0x1f4b00039f000314000300,
    0x1f4c00039f000313000301, 0x1f4d00039f000314000301, 0x1f500003c5000313, 0x1f510003c5000314,
    0x1f520003c5000313000300, 0x1f530003c5000314000300, 0x1f540003c5000313000301,
    0x1f550003c5000314000301, 0x1f560003c5000313000342, 0x1f570003c5000314000342,
    0x1f590003a5000314, 0x1f5b0003a5000314000300, 0x1f5d0003a5000314000301,
    0x1f5f0003a5000314000342, 0x1f600003c9000313, 0x1f610003c9000314, 0x1f620003c9000313000300,
    0x1f630003c9000314000300, 0x1f640003c9000313000301, 0x1f650003c9000314000301,
    0x1f660003c9000313000342, 0x1f670003c9000314000342, 0x1f680003a9000313, 0x1f690003a9000314,
    0x1f6a0003a9000313000300, 0x1f6b0003a9000314000300, 0x1f6c0003a9000313000301,
    0x1f6d0003a9000314000301, 0x1f6e0003a9000313000342, 0x1f6f0003a9000314000342,
    0x1f700003b1000300, 0x1f710003b1000301, 0x1f720003b5000300, 0x1f730003b5000301,
    0x1f740003b7000300, 0x1f750003b7000301, 0x1f760003b9000300, 0x1f770003b9000301,
    0x1f780003bf000300, 0x1f790003bf000301, 0x1f7a0003c5000300, 0x1f7b0003c5000301,
    0x1f7c0003c9000300, 0x1f7d0003c9000301]),
  (0x7e, [0x1f800003b1000313000345, 0x1f810003b1000314000345, 0x1f820003b1000313000300000345,
    0x1f830003b1000314000300000345, 0x1f840003b1000313000301000345, 0x1f850003b1000314000301000345,
    0x1f860003b1000313000342000345, 0x1f870003b1000314000342000345, 0x1f88000391000313000345,
    0x1f89000391000314000345, 0x1f8a000391000313000300000345, 0x1f8b000391000314000300000345,
    0x1f8c000391000313000301000345, 0x1f8d000391000314000301000345, 0x1f8e000391000313000342000345,
    0x1f8f000391000314000342000345, 0x1f900003b7000313000345, 0x1f910003b7000314000345,
    0x1f920003b7000313000300000345, 0x1f930003b7000314000300000345, 0x1f940003b7000313000301000345,
    0x1f950003b7000314000301000345, 0x1f960003b7000313000342000345, 0x1f970003b7000314000342000345,
    0x1f98000397000313000345, 0x1f99000397000314000345, 0x1f9a000397000313000300000345,
    0x1f9b000397000314000300000345, 0x1f9c000397000313000301000345, 0x1f9d000397000314000301000345,
    0x1f9e000397000313000342000345, 0x1f9f000397000314000342000345, 0x1fa00003c9000313000345,
    0x1fa10003c9000314000345, 0x1fa20003c9000313000300000345, 0x1fa30003c9000314000300000345,
    0x1fa40003c9000313000301000345, 0x1fa50003c9000314000301000345, 0x1fa60003c9000313000342000345,
    0x1fa70003c9000314000342000345, 0x1fa80003a9000313000345, 0x1fa90003a9000314000345,
    0x1faa0003a9000313000300000345, 0x1fab0003a9000314000300000345, 0x1fac0003a9000313000301000345,
    0x1fad0003a9000314000301000345, 0x1fae0003a9000313000342000345, 0x1faf0003a9000314000342000345,
    0x1fb00003b1000306, 0x1fb10003b1000304, 0x1fb20003b1000300000345, 0x1fb30003b1000345,
    0x1fb40003b1000301000345, 0x1fb60003b1000342, 0x1fb70003b1000342000345, 0x1fb8000391000306,
    0x1fb9000391000304, 0x1fba000391000300, 0x1fbb000391000301, 0x1fbc000391000345,
    0x1fbd000020000313, 0x1fbe0003b9, 0x1fbf000020000313]),
  (0x7f, [0x1fc0000020000342, 0x1fc1000020000308000342, 0x1fc20003b7000300000345,
    0x1fc30003b7000345, 0x1fc40003b7000301000345, 0x1fc60003b7000342, 0x1fc70003b7000342000345,
    0x1fc8000395000300, 0x1fc9000395000301, 0x1fca000397000300, 0x1fcb000397000301,
    0x1fcc000397000345, 0x1fcd000020000313000300, 0x1fce000020000313000301,
    0x1fcf000020000313000342, 0x1fd00003b9000306, 0x1fd10003b9000304, 0x1fd20003b9000308000300,
    0x1fd30003b9000308000301, 0x1fd60003b9000342, 0x1fd70003b9000308000342, 0x1fd8000399000306,
    0x1fd9000399000304, 0x1fda000399000300, 0x1fdb000399000301, 0x1fdd000020000314000300,
    0x1fde000020000314000301, 0x1fdf000020000314000342, 0x1fe00003c5000306, 0x1fe10003c5000304,
    0x1fe20003c5000308000300, 0x1fe30003c5000308000301, 0x1fe40003c1000313, 0x1fe50003c1000314,
    0x1fe60003c5000342, 0x1fe70003c5000308000342, 0x1fe80003a5000306, 0x1fe90003a5000304,
    0x1fea0003a5000300, 0x1feb0003a5000301, 0x1fec0003a1000314, 0x1fed000020000308000300,
    0x1fee000020000308000301, 0x1fef000060, 0x1ff20003c9000300000345, 0x1ff30003c9000345,
    0x1ff40003c9000301000345, 0x1ff60003c9000342, 0x1ff70003c9000342000345, 0x1ff800039f000300,
    0x1ff900039f000301, 0x1ffa0003a9000300, 0x1ffb0003a9000301, 0x1ffc0003a9000345,
    0x1ffd000020000301, 0x1ffe000020000314]),
  (0x80, [0x2000000020, 0x2001000020, 0x2002000020, 0x2003000020, 0x2004000020, 0x2005000020,
    0x2006000020, 0x2007000020, 0x2008000020, 0x2009000020, 0x200a000020, 0x2011002010,
    0x2017000020000333, 0x202400002e, 0x202500002e00002e, 0x202600002e00002e00002e, 0x202f000020,
    0x2033002032002032, 0x2034002032002032002032, 0x2036002035002035, 0x2037002035002035002035,
    0x203c000021000021, 0x203e000020000305]),
  (0x81, [0x204700003f00003f, 0x204800003f000021, 0x204900002100003f,
    0x2057002032002032002032002032, 0x205f000020, 0x2070000030, 0x2071000069, 0x2074000034,
    0x2075000035, 0x2076000036, 0x2077000037, 0x2078000038, 0x2079000039, 0x207a00002b,
    0x207b002212, 0x207c00003d, 0x207d000028, 0x207e000029, 0x207f00006e]),
  (0x82, [0x2080000030, 0x2081000031, 0x2082000032, 0x2083000033, 0x2084000034, 0x2085000035,
    0x2086000036, 0x2087000037, 0x2088000038, 0x2089000039, 0x208a00002b, 0x208b002212,
    0x208c00003d, 0x208d000028, 0x208e000029, 0x2090000061, 0x2091000065, 0x209200006f,
    0x2093000078, 0x2094000259, 0x2095000068, 0x209600006b, 0x209700006c, 0x209800006d,
    0x209900006e, 0x209a000070, 0x209b000073, 0x209c000074, 0x20a8000052000073]),
  (0x84, [0x210000006100002f000063, 0x210100006100002f000073, 0x2102000043, 0x21030000b0000043,
    0x210500006300002f00006f, 0x210600006300002f000075, 0x2107000190, 0x21090000b0000046,
    0x210a000067, 0x210b000048, 0x210c000048, 0x210d000048, 0x210e000068, 0x210f000127,
    0x2110000049, 0x2111000049, 0x211200004c, 0x211300006c, 0x211500004e, 0x211600004e00006f,
    0x2119000050, 0x211a000051, 0x211b000052, 0x211c000052, 0x211d000052, 0x212000005300004d,
    0x212100005400004500004c, 0x212200005400004d, 0x212400005a, 0x21260003a9, 0x212800005a,
    0x212a00004b, 0x212b00004100030a, 0x212c000042, 0x212d000043, 0x212f000065, 0x2130000045,
    0x2131000046, 0x213300004d, 0x213400006f, 0x21350005d0, 0x21360005d1, 0x21370005d2,
    0x21380005d3, 0x2139000069, 0x213b000046000041000058, 0x213c0003c0, 0x213d0003b3, 0x213e000393,
    0x213f0003a0])]

def rows2140 : Table := [
  (0x85, [0x2140002211, 0x2145000044, 0x2146000064, 0x2147000065, 0x2148000069, 0x214900006a,
    0x2150000031002044000037, 0x2151000031002044000039, 0x2152000031002044000031000030,
    0x2153000031002044000033, 0x2154000032002044000033, 0x2155000031002044000035,
    0x2156000032002044000035, 0x2157000033002044000035, 0x2158000034002044000035,
    0x2159000031002044000036, 0x215a000035002044000036, 0x215b000031002044000038,
    0x215c000033002044000038, 0x215d000035002044000038, 0x215e000037002044000038,
    0x215f000031002044, 0x2160000049, 0x2161000049000049, 0x2162000049000049000049,
    0x2163000049000056, 0x2164000056, 0x2165000056000049, 0x2166000056000049000049,
    0x2167000056000049000049000049, 0x2168000049000058, 0x2169000058, 0x216a000058000049,
    0x216b000058000049000049, 0x216c00004c, 0x216d000043, 0x216e000044, 0x216f00004d, 0x2170000069,
    0x2171000069000069, 0x2172000069000069000069, 0x2173000069000076, 0x2174000076,
    0x2175000076000069, 0x2176000076000069000069, 0x2177000076000069000069000069,
    0x2178000069000078, 0x2179000078, 0x217a000078000069, 0x217b000078000069000069, 0x217c00006c,
    0x217d000063, 0x217e000064, 0x217f00006d]),
  (0x86, [0x2189000030002044000033, 0x219a002190000338, 0x219b002192000338, 0x21ae002194000338]),
  (0x87, [0x21cd0021d0000338, 0x21ce0021d4000338, 0x21cf0021d2000338]),
  (0x88, [0x2204002203000338, 0x2209002208000338, 0x220c00220b000338, 0x2224002223000338,
    0x2226002225000338, 0x222c00222b00222b, 0x222d00222b00222b00222b, 0x222f00222e00222e,
    0x223000222e00222e00222e]),
  (0x89, [0x224100223c000338, 0x2244002243000338, 0x2247002245000338, 0x2249002248000338,
    0x226000003d000338, 0x2262002261000338, 0x226d00224d000338, 0x226e00003c000338,
    0x226f00003e000338, 0x2270002264000338, 0x2271002265000338, 0x2274002272000338,
    0x2275002273000338, 0x2278002276000338, 0x2279002277000338]),
  (0x8a, [0x228000227a000338, 0x228100227b000338, 0x2284002282000338, 0x2285002283000338,
    0x2288002286000338, 0x2289002287000338, 0x22ac0022a2000338, 0x22ad0022a8000338,
    0x22ae0022a9000338, 0x22af0022ab000338]),
  (0x8b, [0x22e000227c000338, 0x22e100227d000338, 0x22e2002291000338, 0x22e3002292000338,
    0x22ea0022b2000338, 0x22eb0022b3000338, 0x22ec0022b4000338, 0x22ed0022b5000338]),
  (0x8c, [0x2329003008, 0x232a003009]),
  (0x91, [0x2460000031, 0x2461000032, 0x2462000033, 0x2463000034, 0x2464000035, 0x2465000036,
    0x2466000037, 0x2467000038, 0x2468000039, 0x2469000031000030, 0x246a000031000031,
    0x246b000031000032, 0x246c000031000033, 0x246d000031000034, 0x246e000031000035,
    0x246f000031000036, 0x2470000031000037, 0x2471000031000038, 0x2472000031000039,
    0x2473000032000030, 0x2474000028000031000029, 0x2475000028000032000029,
    0x2476000028000033000029, 0x2477000028000034000029, 0x2478000028000035000029,
    0x2479000028000036000029, 0x247a000028000037000029, 0x247b000028000038000029,
    0x247c000028000039000029, 0x247d000028000031000030000029, 0x247e000028000031000031000029,
    0x247f000028000031000032000029]),
  (0x92, [0x2480000028000031000033000029, 0x2481000028000031000034000029,
    0x2482000028000031000035000029, 0x2483000028000031000036000029, 0x2484000028000031000037000029,
    0x2485000028000031000038000029, 0x2486000028000031000039000029, 0x2487000028000032000030000029,
    0x248800003100002e, 0x248900003200002e, 0x248a00003300002e, 0x248b00003400002e,
    0x248c00003500002e, 0x248d00003600002e, 0x248e00003700002e, 0x248f00003800002e,
    0x249000003900002e, 0x249100003100003000002e, 0x249200003100003100002e,
    0x249300003100003200002e, 0x249400003100003300002e, 0x249500003100003400002e,
    0x249600003100003500002e, 0x249700003100003600002e, 0x249800003100003700002e,
    0x249900003100003800002e, 0x249a00003100003900002e, 0x249b00003200003000002e,
    0x249c000028000061000029, 0x249d000028000062000029, 0x249e000028000063000029,
    0x249f000028000064000029, 0x24a0000028000065000029, 0x24a1000028000066000029,
    0x24a2000028000067000029, 0x24a3000028000068000029, 0x24a4000028000069000029,
    0x24a500002800006a000029, 0x24a600002800006b000029, 0x24a700002800006c000029,
    0x24a800002800006d000029, 0x24a900002800006e000029, 0x24aa00002800006f000029,
    0x24ab000028000070000029, 0x24ac000028000071000029, 0x24ad000028000072000029,
    0x24ae000028000073000029, 0x24af000028000074000029, 0x24b0000028000075000029,
    0x24b1000028000076000029, 0x24b2000028000077000029, 0x24b3000028000078000029,
    0x24b4000028000079000029, 0x24b500002800007a000029, 0x24b6000041, 0x24b7000042, 0x24b8000043,
    0x24b9000044, 0x24ba000045, 0x24bb000046, 0x24bc000047, 0x24bd000048, 0x24be000049,
    0x24bf00004a]),
  (0x93, [0x24c000004b, 0x24c100004c, 0x24c200004d, 0x24c300004e, 0x24c400004f, 0x24c5000050,
    0x24c6000051, 0x24c7000052, 0x24c8000053, 0x24c9000054, 0x24ca000055, 0x24cb000056,
    0x24cc000057, 0x24cd000058, 0x24ce000059, 0x24cf00005a, 0x24d0000061, 0x24d1000062,
    0x24d2000063, 0x24d3000064, 0x24d4000065, 0x24d5000066, 0x24d6000067, 0x24d7000068,
    0x24d8000069, 0x24d900006a, 0x24da00006b, 0x24db00006c, 0x24dc00006d, 0x24dd00006e,
    0x24de00006f, 0x24df000070, 0x24e0000071, 0x24e1000072, 0x24e2000073, 0x24e3000074,
    0x24e4000075, 0x24e5000076, 0x24e6000077, 0x24e7000078, 0x24e8000079, 0x24e900007a,
    0x24ea000030]),
  (0xa8, [0x2a0c00222b00222b00222b00222b]),
  (0xa9, [0x2a7400003a00003a00003d, 0x2a7500003d00003d, 0x2a7600003d00003d00003d]),
  (0xab, [0x2adc002add000338]),
  (0xb1, [0x2c7c00006a, 0x2c7d000056]),
  (0xb5, [0x2d6f002d61]),
  (0xba, [0x2e9f006bcd]),
  (0xbb, [0x2ef3009f9f]),
  (0xbc, [0x2f00004e00, 0x2f01004e28, 0x2f02004e36, 0x2f03004e3f, 0x2f04004e59, 0x2f05004e85,
    0x2f06004e8c, 0x2f07004ea0, 0x2f08004eba, 0x2f0900513f, 0x2f0a005165, 0x2f0b00516b,
    0x2f0c005182, 0x2f0d005196, 0x2f0e0051ab, 0x2f0f0051e0, 0x2f100051f5, 0x2f11005200,
    0x2f1200529b, 0x2f130052f9, 0x2f14005315, 0x2f1500531a, 0x2f16005338, 0x2f17005341,
    0x2f1800535c, 0x2f19005369, 0x2f1a005382, 0x2f1b0053b6, 0x2f1c0053c8, 0x2f1d0053e3,
    0x2f1e0056d7, 0x2f1f00571f, 0x2f200058eb, 0x2f21005902, 0x2f2200590a, 0x2f23005915,
    0x2f24005927, 0x2f25005973, 0x2f26005b50, 0x2f27005b80, 0x2f28005bf8, 0x2f29005c0f,
    0x2f2a005c22, 0x2f2b005c38, 0x2f2c005c6e, 0x2f2d005c71, 0x2f2e005ddb, 0x2f2f005de5,
    0x2f30005df1, 0x2f31005dfe, 0x2f32005e72, 0x2f33005e7a, 0x2f34005e7f, 0x2f35005ef4,
    0x2f36005efe, 0x2f37005f0b, 0x2f38005f13, 0x2f39005f50, 0x2f3a005f61, 0x2f3b005f73,
    0x2f3c005fc3, 0x2f3d006208, 0x2f3e006236, 0x2f3f00624b]),
  (0xbd, [0x2f4000652f, 0x2f41006534, 0x2f42006587, 0x2f43006597, 0x2f440065a4, 0x2f450065b9,
    0x2f460065e0, 0x2f470065e5, 0x2f480066f0, 0x2f49006708, 0x2f4a006728, 0x2f4b006b20,
    0x2f4c006b62, 0x2f4d006b79, 0x2f4e006bb3, 0x2f4f006bcb, 0x2f50006bd4, 0x2f51006bdb,
    0x2f52006c0f, 0x2f53006c14, 0x2f54006c34, 0x2f5500706b, 0x2f5600722a, 0x2f57007236,
    0x2f5800723b, 0x2f5900723f, 0x2f5a007247, 0x2f5b007259, 0x2f5c00725b, 0x2f5d0072ac,
    0x2f5e007384, 0x2f5f007389, 0x2f600074dc, 0x2f610074e6, 0x2f62007518, 0x2f6300751f,
    0x2f64007528, 0x2f65007530, 0x2f6600758b, 0x2f67007592, 0x2f68007676, 0x2f6900767d,
    0x2f6a0076ae, 0x2f6b0076bf, 0x2f6c0076ee, 0x2f6d0077db, 0x2f6e0077e2, 0x2f6f0077f3,
    0x2f7000793a, 0x2f710079b8, 0x2f720079be, 0x2f73007a74, 0x2f74007acb, 0x2f75007af9,
    0x2f76007c73, 0x2f77007cf8, 0x2f78007f36, 0x2f79007f51, 0x2f7a007f8a, 0x2f7b007fbd,
    0x2f7c008001, 0x2f7d00800c, 0x2f7e008012, 0x2f7f008033]),
  (0xbe, [0x2f8000807f, 0x2f81008089, 0x2f820081e3, 0x2f830081ea, 0x2f840081f3, 0x2f850081fc,
    0x2f8600820c, 0x2f8700821b, 0x2f8800821f, 0x2f8900826e, 0x2f8a008272, 0x2f8b008278,
    0x2f8c00864d, 0x2f8d00866b, 0x2f8e008840, 0x2f8f00884c, 0x2f90008863, 0x2f9100897e,
    0x2f9200898b, 0x2f930089d2, 0x2f94008a00, 0x2f95008c37, 0x2f96008c46, 0x2f97008c55,
    0x2f98008c78, 0x2f99008c9d, 0x2f9a008d64, 0x2f9b008d70, 0x2f9c008db3, 0x2f9d008eab,
    0x2f9e008eca, 0x2f9f008f9b, 0x2fa0008fb0, 0x2fa1008fb5, 0x2fa2009091, 0x2fa3009149,
    0x2fa40091c6, 0x2fa50091cc, 0x2fa60091d1, 0x2fa7009577, 0x2fa8009580, 0x2fa900961c,
    0x2faa0096b6, 0x2fab0096b9, 0x2fac0096e8, 0x2fad009751, 0x2fae00975e, 0x2faf009762,
    0x2fb0009769, 0x2fb10097cb, 0x2fb20097ed, 0x2fb30097f3, 0x2fb4009801, 0x2fb50098a8,
    0x2fb60098db, 0x2fb70098df, 0x2fb8009996, 0x2fb9009999, 0x2fba0099ac, 0x2fbb009aa8,
    0x2fbc009ad8, 0x2fbd009adf, 0x2fbe009b25, 0x2fbf009b2f]),
  (0xbf, [0x2fc0009b32, 0x2fc1009b3c, 0x2fc2009b5a, 0x2fc3009ce5, 0x2fc4009e75, 0x2fc5009e7f,
    0x2fc6009ea5, 0x2fc7009ebb, 0x2fc8009ec3, 0x2fc9009ecd, 0x2fca009ed1, 0x2fcb009ef9,
    0x2fcc009efd, 0x2fcd009f0e, 0x2fce009f13, 0x2fcf009f20, 0x2fd0009f3b, 0x2fd1009f4a,
    0x2fd2009f52, 0x2fd3009f8d, 0x2fd4009f9c, 0x2fd5009fa0]),
  (0xc0, [0x3000000020, 0x3036003012, 0x3038005341, 0x3039005344, 0x303a005345]),
  (0xc1, [0x304c00304b003099, 0x304e00304d003099, 0x305000304f003099, 0x3052003051003099,
    0x3054003053003099, 0x3056003055003099, 0x3058003057003099, 0x305a003059003099,
    0x305c00305b003099, 0x305e00305d003099, 0x306000305f003099, 0x3062003061003099,
    0x3065003064003099, 0x3067003066003099, 0x3069003068003099, 0x307000306f003099,
    0x307100306f00309a, 0x3073003072003099, 0x307400307200309a, 0x3076003075003099,
    0x307700307500309a, 0x3079003078003099, 0x307a00307800309a, 0x307c00307b003099,
    0x307d00307b00309a]),
  (0xc2, [0x3094003046003099, 0x309b000020003099, 0x309c00002000309a, 0x309e00309d003099,
    0x309f00308800308a, 0x30ac0030ab003099, 0x30ae0030ad003099, 0x30b00030af003099,
    0x30b20030b1003099, 0x30b40030b3003099, 0x30b60030b5003099, 0x30b80030b7003099,
    0x30ba0030b9003099, 0x30bc0030bb003099, 0x30be0030bd003099]),
  (0xc3, [0x30c00030bf003099, 0x30c20030c1003099, 0x30c50030c4003099, 0x30c70030c6003099,
    0x30c90030c8003099, 0x30d00030cf003099, 0x30d10030cf00309a, 0x30d30030d2003099,
    0x30d40030d200309a, 0x30d60030d5003099, 0x30d70030d500309a, 0x30d90030d8003099,
    0x30da0030d800309a, 0x30dc0030db003099, 0x30dd0030db00309a, 0x30f40030a6003099,
    0x30f70030ef003099, 0x30f80030f0003099, 0x30f90030f1003099, 0x30fa0030f2003099,
    0x30fe0030fd003099, 0x30ff0030b30030c8]),
  (0xc4, [0x3131001100, 0x3132001101, 0x31330011aa, 0x3134001102, 0x31350011ac, 0x31360011ad,
    0x3137001103, 0x3138001104, 0x3139001105, 0x313a0011b0, 0x313b0011b1, 0x313c0011b2,
    0x313d0011b3, 0x313e0011b4, 0x313f0011b5])]

def rows3140 : Table := [
  (0xc5, [0x314000111a, 0x3141001106, 0x3142001107, 0x3143001108, 0x3144001121, 0x3145001109,
    0x314600110a, 0x314700110b, 0x314800110c, 0x314900110d, 0x314a00110e, 0x314b00110f,
    0x314c001110, 0x314d001111, 0x314e001112, 0x314f001161, 0x3150001162, 0x3151001163,
    0x3152001164, 0x3153001165, 0x3154001166, 0x3155001167, 0x3156001168, 0x3157001169,
    0x315800116a, 0x315900116b, 0x315a00116c, 0x315b00116d, 0x315c00116e, 0x315d00116f,
    0x315e001170, 0x315f001171, 0x3160001172, 0x3161001173, 0x3162001174, 0x3163001175,
    0x3164001160, 0x3165001114, 0x3166001115, 0x31670011c7, 0x31680011c8, 0x31690011cc,
    0x316a0011ce, 0x316b0011d3, 0x316c0011d7, 0x316d0011d9, 0x316e00111c, 0x316f0011dd,
    0x31700011df, 0x317100111d, 0x317200111e, 0x3173001120, 0x3174001122, 0x3175001123,
    0x3176001127, 0x3177001129, 0x317800112b, 0x317900112c, 0x317a00112d, 0x317b00112e,
    0x317c00112f, 0x317d001132, 0x317e001136, 0x317f001140]),
  (0xc6, [0x3180001147, 0x318100114c, 0x31820011f1, 0x31830011f2, 0x3184001157, 0x3185001158,
    0x3186001159, 0x3187001184, 0x3188001185, 0x3189001188, 0x318a001191, 0x318b001192,
    0x318c001194, 0x318d00119e, 0x318e0011a1, 0x3192004e00, 0x3193004e8c, 0x3194004e09,
    0x31950056db, 0x3196004e0a, 0x3197004e2d, 0x3198004e0b, 0x3199007532, 0x319a004e59,
    0x319b004e19, 0x319c004e01, 0x319d005929, 0x319e005730, 0x319f004eba]),
  (0xc8, [0x3200000028001100000029, 0x3201000028001102000029, 0x3202000028001103000029,
    0x3203000028001105000029, 0x3204000028001106000029, 0x3205000028001107000029,
    0x3206000028001109000029, 0x320700002800110b000029, 0x320800002800110c000029,
    0x320900002800110e000029, 0x320a00002800110f000029, 0x320b000028001110000029,
    0x320c000028001111000029, 0x320d000028001112000029, 0x320e000028001100001161000029,
    0x320f000028001102001161000029, 0x3210000028001103001161000029, 0x3211000028001105001161000029,
    0x3212000028001106001161000029, 0x3213000028001107001161000029, 0x3214000028001109001161000029,
    0x321500002800110b001161000029, 0x321600002800110c001161000029, 0x321700002800110e001161000029,
    0x321800002800110f001161000029, 0x3219000028001110001161000029, 0x321a000028001111001161000029,
    0x321b000028001112001161000029, 0x321c00002800110c00116e000029,
    0x321d00002800110b00116900110c0011650011ab000029, 0x321e00002800110b00116900111200116e000029,
    0x3220000028004e00000029, 0x3221000028004e8c000029, 0x3222000028004e09000029,
    0x32230000280056db000029, 0x3224000028004e94000029, 0x322500002800516d000029,
    0x3226000028004e03000029, 0x322700002800516b000029, 0x3228000028004e5d000029,
    0x3229000028005341000029, 0x322a000028006708000029, 0x322b00002800706b000029,
    0x322c000028006c34000029, 0x322d000028006728000029, 0x322e0000280091d1000029,
    0x322f00002800571f000029, 0x32300000280065e5000029, 0x323100002800682a000029,
    0x3232000028006709000029, 0x323300002800793e000029, 0x323400002800540d000029,
    0x3235000028007279000029, 0x3236000028008ca1000029, 0x323700002800795d000029,
    0x32380000280052b4000029, 0x3239000028004ee3000029, 0x323a00002800547c000029,
    0x323b000028005b66000029, 0x323c0000280076e3000029, 0x323d000028004f01000029,
    0x323e000028008cc7000029, 0x323f000028005354000029]),
  (0xc9, [0x324000002800796d000029, 0x3241000028004f11000029, 0x32420000280081ea000029,
    0x32430000280081f3000029, 0x324400554f, 0x3245005e7c, 0x3246006587, 0x3247007b8f,
    0x3250000050000054000045, 0x3251000032000031, 0x3252000032000032, 0x3253000032000033,
    0x3254000032000034, 0x3255000032000035, 0x3256000032000036, 0x3257000032000037,
    0x3258000032000038, 0x3259000032000039, 0x325a000033000030, 0x325b000033000031,
    0x325c000033000032, 0x325d000033000033, 0x325e000033000034, 0x325f000033000035, 0x3260001100,
    0x3261001102, 0x3262001103, 0x3263001105, 0x3264001106, 0x3265001107, 0x3266001109,
    0x326700110b, 0x326800110c, 0x326900110e, 0x326a00110f, 0x326b001110, 0x326c001111,
    0x326d001112, 0x326e001100001161, 0x326f001102001161, 0x3270001103001161, 0x3271001105001161,
    0x3272001106001161, 0x3273001107001161, 0x3274001109001161, 0x327500110b001161,
    0x327600110c001161, 0x327700110e001161, 0x327800110f001161, 0x3279001110001161,
    0x327a001111001161, 0x327b001112001161, 0x327c00110e0011610011b7001100001169,
    0x327d00110c00116e00110b001174, 0x327e00110b00116e]),
  (0xca, [0x3280004e00, 0x3281004e8c, 0x3282004e09, 0x32830056db, 0x3284004e94, 0x328500516d,
    0x3286004e03, 0x328700516b, 0x3288004e5d, 0x3289005341, 0x328a006708, 0x328b00706b,
    0x328c006c34, 0x328d006728, 0x328e0091d1, 0x328f00571f, 0x32900065e5, 0x329100682a,
    0x3292006709, 0x329300793e, 0x329400540d, 0x3295007279, 0x3296008ca1, 0x329700795d,
    0x32980052b4, 0x32990079d8, 0x329a007537, 0x329b005973, 0x329c009069, 0x329d00512a,
    0x329e005370, 0x329f006ce8, 0x32a0009805, 0x32a1004f11, 0x32a2005199, 0x32a3006b63,
    0x32a4004e0a, 0x32a5004e2d, 0x32a6004e0b, 0x32a7005de6, 0x32a80053f3, 0x32a900533b,
    0x32aa005b97, 0x32ab005b66, 0x32ac0076e3, 0x32ad004f01, 0x32ae008cc7, 0x32af005354,
    0x32b000591c, 0x32b1000033000036, 0x32b2000033000037, 0x32b3000033000038, 0x32b4000033000039,
    0x32b5000034000030, 0x32b6000034000031, 0x32b7000034000032, 0x32b8000034000033,
    0x32b9000034000034, 0x32ba000034000035, 0x32bb000034000036, 0x32bc000034000037,
    0x32bd000034000038, 0x32be000034000039, 0x32bf000035000030]),
  (0xcb, [0x32c0000031006708, 0x32c1000032006708, 0x32c2000033006708, 0x32c3000034006708,
    0x32c4000035006708, 0x32c5000036006708, 0x32c6000037006708, 0x32c7000038006708,
    0x32c8000039006708, 0x32c9000031000030006708, 0x32ca000031000031006708,
    0x32cb000031000032006708, 0x32cc000048000067, 0x32cd000065000072000067, 0x32ce000065000056,
    0x32cf00004c000054000044, 0x32d00030a2, 0x32d10030a4, 0x32d20030a6, 0x32d30030a8, 0x32d40030aa,
    0x32d50030ab, 0x32d60030ad, 0x32d70030af, 0x32d80030b1, 0x32d90030b3, 0x32da0030b5,
    0x32db0030b7, 0x32dc0030b9, 0x32dd0030bb, 0x32de0030bd, 0x32df0030bf, 0x32e00030c1,
    0x32e10030c4, 0x32e20030c6, 0x32e30030c8, 0x32e40030ca, 0x32e50030cb, 0x32e60030cc,
    0x32e70030cd, 0x32e80030ce, 0x32e90030cf, 0x32ea0030d2, 0x32eb0030d5, 0x32ec0030d8,
    0x32ed0030db, 0x32ee0030de, 0x32ef0030df, 0x32f00030e0, 0x32f10030e1, 0x32f20030e2,
    0x32f30030e4, 0x32f40030e6, 0x32f50030e8, 0x32f60030e9, 0x32f70030ea, 0x32f80030eb,
    0x32f90030ec, 0x32fa0030ed, 0x32fb0030ef, 0x32fc0030f0, 0x32fd0030f1, 0x32fe0030f2,
    0x32ff004ee400548c]),
  (0xcc, [0x33000030a20030cf00309a0030fc0030c8, 0x33010030a20030eb0030d50030a1,
    0x33020030a20030f30030d800309a0030a2, 0x33030030a20030fc0030eb,
    0x33040030a40030cb0030f30030af003099, 0x33050030a40030f30030c1, 0x33060030a60030a90030f3,
    0x33070030a80030b90030af0030fc0030c8003099, 0x33080030a80030fc0030ab0030fc,
    0x33090030aa0030f30030b9, 0x330a0030aa0030fc0030e0, 0x330b0030ab0030a40030ea,
    0x330c0030ab0030e90030c30030c8, 0x330d0030ab0030ed0030ea0030fc, 0x330e0030ab0030990030ed0030f3,
    0x330f0030ab0030990030f30030de, 0x33100030ad0030990030ab003099, 0x33110030ad0030990030cb0030fc,
    0x33120030ad0030e50030ea0030fc, 0x33130030ad0030990030eb0030bf0030990030fc, 0x33140030ad0030ed,
    0x33150030ad0030ed0030af0030990030e90030e0, 0x33160030ad0030ed0030e10030fc0030c80030eb,
    0x33170030ad0030ed0030ef0030c30030c8, 0x33180030af0030990030e90030e0,
    0x33190030af0030990030e90030e00030c80030f3, 0x331a0030af0030eb0030bb0030990030a40030ed,
    0x331b0030af0030ed0030fc0030cd, 0x331c0030b10030fc0030b9, 0x331d0030b30030eb0030ca,
    0x331e0030b30030fc0030db00309a, 0x331f0030b50030a40030af0030eb,
    0x33200030b50030f30030c10030fc0030e0, 0x33210030b70030ea0030f30030af003099,
    0x33220030bb0030f30030c1, 0x33230030bb0030f30030c8, 0x33240030bf0030990030fc0030b9,
    0x33250030c60030990030b7, 0x33260030c80030990030eb, 0x33270030c80030f3, 0x33280030ca0030ce,
    0x33290030ce0030c30030c8, 0x332a0030cf0030a40030c4, 0x332b0030cf00309a0030fc0030bb0030f30030c8,
    0x332c0030cf00309a0030fc0030c4, 0x332d0030cf0030990030fc0030ec0030eb,
    0x332e0030d200309a0030a20030b90030c80030eb, 0x332f0030d200309a0030af0030eb,
    0x33300030d200309a0030b3, 0x33310030d20030990030eb, 0x33320030d50030a10030e90030c30030c8003099,
    0x33330030d50030a30030fc0030c8, 0x33340030d50030990030c30030b70030a70030eb,
    0x33350030d50030e90030f3, 0x33360030d80030af0030bf0030fc0030eb, 0x33370030d800309a0030bd,
    0x33380030d800309a0030cb0030d2, 0x33390030d80030eb0030c4, 0x333a0030d800309a0030f30030b9,
    0x333b0030d800309a0030fc0030b7003099, 0x333c0030d80030990030fc0030bf,
    0x333d0030db00309a0030a40030f30030c8, 0x333e0030db0030990030eb0030c8, 0x333f0030db0030f3]),
  (0xcd, [0x33400030db00309a0030f30030c8003099, 0x33410030db0030fc0030eb, 0x33420030db0030fc0030f3,
    0x33430030de0030a40030af0030ed, 0x33440030de0030a40030eb, 0x33450030de0030c30030cf,
    0x33460030de0030eb0030af, 0x33470030de0030f30030b70030e70030f3, 0x33480030df0030af0030ed0030f3,
    0x33490030df0030ea, 0x334a0030df0030ea0030cf0030990030fc0030eb, 0x334b0030e10030ab003099,
    0x334c0030e10030ab0030990030c80030f3, 0x334d0030e10030fc0030c80030eb,
    0x334e0030e40030fc0030c8003099, 0x334f0030e40030fc0030eb, 0x33500030e60030a20030f3,
    0x33510030ea0030c30030c80030eb, 0x33520030ea0030e9, 0x33530030eb0030d200309a0030fc,
    0x33540030eb0030fc0030d50030990030eb, 0x33550030ec0030e0,
    0x33560030ec0030f30030c80030b10030990030f3, 0x33570030ef0030c30030c8, 0x33580000300070b9,
    0x33590000310070b9, 0x335a0000320070b9, 0x335b0000330070b9, 0x335c0000340070b9,
    0x335d0000350070b9, 0x335e0000360070b9, 0x335f0000370070b9, 0x33600000380070b9,
    0x33610000390070b9, 0x33620000310000300070b9, 0x33630000310000310070b9,
    0x33640000310000320070b9, 0x33650000310000330070b9, 0x33660000310000340070b9,
    0x33670000310000350070b9, 0x33680000310000360070b9, 0x33690000310000370070b9,
    0x336a0000310000380070b9, 0x336b0000310000390070b9, 0x336c0000320000300070b9,
    0x336d0000320000310070b9, 0x336e0000320000320070b9, 0x336f0000320000330070b9,
    0x33700000320000340070b9, 0x3371000068000050000061, 0x3372000064000061, 0x3373000041000055,
    0x3374000062000061000072, 0x337500006f000056, 0x3376000070000063, 0x337700006400006d,
    0x337800006400006d000032, 0x337900006400006d000033, 0x337a000049000055, 0x337b005e73006210,
    0x337c00662d00548c, 0x337d005927006b63, 0x337e00660e006cbb, 0x337f00682a005f0f004f1a00793e]),
  (0xce, [0x3380000070000041, 0x338100006e000041, 0x33820003bc000041, 0x338300006d000041,
    0x338400006b000041, 0x338500004b000042, 0x338600004d000042, 0x3387000047000042,
    0x338800006300006100006c, 0x338900006b00006300006100006c, 0x338a000070000046,
    0x338b00006e000046, 0x338c0003bc000046, 0x338d0003bc000067, 0x338e00006d000067,
    0x338f00006b000067, 0x339000004800007a, 0x339100006b00004800007a, 0x339200004d00004800007a,
    0x339300004700004800007a, 0x339400005400004800007a, 0x33950003bc00006c, 0x339600006d00006c,
    0x339700006400006c, 0x339800006b00006c, 0x339900006600006d, 0x339a00006e00006d,
    0x339b0003bc00006d, 0x339c00006d00006d, 0x339d00006300006d, 0x339e00006b00006d,
    0x339f00006d00006d000032, 0x33a000006300006d000032, 0x33a100006d000032,
    0x33a200006b00006d000032, 0x33a300006d00006d000033, 0x33a400006300006d000033,
    0x33a500006d000033, 0x33a600006b00006d000033, 0x33a700006d002215000073,
    0x33a800006d002215000073000032, 0x33a9000050000061, 0x33aa00006b000050000061,
    0x33ab00004d000050000061, 0x33ac000047000050000061, 0x33ad000072000061000064,
    0x33ae000072000061000064002215000073, 0x33af000072000061000064002215000073000032,
    0x33b0000070000073, 0x33b100006e000073, 0x33b20003bc000073, 0x33b300006d000073,
    0x33b4000070000056, 0x33b500006e000056, 0x33b60003bc000056, 0x33b700006d000056,
    0x33b800006b000056, 0x33b900004d000056, 0x33ba000070000057, 0x33bb00006e000057,
    0x33bc0003bc000057, 0x33bd00006d000057, 0x33be00006b000057, 0x33bf00004d000057]),
  (0xcf, [0x33c000006b0003a9, 0x33c100004d0003a9, 0x33c200006100002e00006d00002e,
    0x33c3000042000071, 0x33c4000063000063, 0x33c5000063000064, 0x33c600004300221500006b000067,
    0x33c700004300006f00002e, 0x33c8000064000042, 0x33c9000047000079, 0x33ca000068000061,
    0x33cb000048000050, 0x33cc00006900006e, 0x33cd00004b00004b, 0x33ce00004b00004d,
    0x33cf00006b000074, 0x33d000006c00006d, 0x33d100006c00006e, 0x33d200006c00006f000067,
    0x33d300006c000078, 0x33d400006d000062, 0x33d500006d00006900006c, 0x33d600006d00006f00006c,
    0x33d7000050000048, 0x33d800007000002e00006d00002e, 0x33d900005000005000004d,
    0x33da000050000052, 0x33db000073000072, 0x33dc000053000076, 0x33dd000057000062,
    0x33de00005600221500006d, 0x33df00004100221500006d, 0x33e00000310065e5, 0x33e10000320065e5,
    0x33e20000330065e5, 0x33e30000340065e5, 0x33e40000350065e5, 0x33e50000360065e5,
    0x33e60000370065e5, 0x33e70000380065e5, 0x33e80000390065e5, 0x33e90000310000300065e5,
    0x33ea0000310000310065e5, 0x33eb0000310000320065e5, 0x33ec0000310000330065e5,
    0x33ed0000310000340065e5, 0x33ee0000310000350065e5, 0x33ef0000310000360065e5,
    0x33f00000310000370065e5, 0x33f10000310000380065e5, 0x33f20000310000390065e5,
    0x33f30000320000300065e5, 0x33f40000320000310065e5, 0x33f50000320000320065e5,
    0x33f60000320000330065e5, 0x33f70000320000340065e5, 0x33f80000320000350065e5,
    0x33f90000320000360065e5, 0x33fa0000320000370065e5, 0x33fb0000320000380065e5,
    0x33fc0000320000390065e5, 0x33fd0000330000300065e5, 0x33fe0000330000310065e5,
    0x33ff00006700006100006c]),
  (0x29a, [0xa69c00044a, 0xa69d00044c]),
  (0x29d, [0xa77000a76f])]

def rowsA7C0 : Table := [
  (0x29f, [0xa7f2000043, 0xa7f3000046, 0xa7f4000051, 0xa7f8000126, 0xa7f9000153]),
  (0x2ad, [0xab5c00a727, 0xab5d00ab37, 0xab5e00026b, 0xab5f00ab52, 0xab6900028d]),
  (0x3e4, [0xf900008c48, 0xf9010066f4, 0xf902008eca, 0xf903008cc8, 0xf904006ed1, 0xf905004e32,
    0xf9060053e5, 0xf907009f9c, 0xf908009f9c, 0xf909005951, 0xf90a0091d1, 0xf90b005587,
    0xf90c005948, 0xf90d0061f6, 0xf90e007669, 0xf90f007f85, 0xf91000863f, 0xf9110087ba,
    0xf9120088f8, 0xf91300908f, 0xf914006a02, 0xf915006d1b, 0xf9160070d9, 0xf9170073de,
    0xf91800843d, 0xf91900916a, 0xf91a0099f1, 0xf91b004e82, 0xf91c005375, 0xf91d006b04,
    0xf91e00721b, 0xf91f00862d, 0xf920009e1e, 0xf921005d50, 0xf922006feb, 0xf9230085cd,
    0xf924008964, 0xf9250062c9, 0xf9260081d8, 0xf92700881f, 0xf928005eca, 0xf929006717,
    0xf92a006d6a, 0xf92b0072fc, 0xf92c0090ce, 0xf92d004f86, 0xf92e0051b7, 0xf92f0052de,
    0xf9300064c4, 0xf931006ad3, 0xf932007210, 0xf9330076e7, 0xf934008001, 0xf935008606,
    0xf93600865c, 0xf937008def, 0xf938009732, 0xf939009b6f, 0xf93a009dfa, 0xf93b00788c,
    0xf93c00797f, 0xf93d007da0, 0xf93e0083c9, 0xf93f009304]),
  (0x3e5, [0xf940009e7f, 0xf941008ad6, 0xf9420058df, 0xf943005f04, 0xf944007c60, 0xf94500807e,
    0xf946007262, 0xf9470078ca, 0xf948008cc2, 0xf9490096f7, 0xf94a0058d8, 0xf94b005c62,
    0xf94c006a13, 0xf94d006dda, 0xf94e006f0f, 0xf94f007d2f, 0xf950007e37, 0xf95100964b,
    0xf9520052d2, 0xf95300808b, 0xf9540051dc, 0xf9550051cc, 0xf956007a1c, 0xf957007dbe,
    0xf9580083f1, 0xf959009675, 0xf95a008b80, 0xf95b0062cf, 0xf95c006a02, 0xf95d008afe,
    0xf95e004e39, 0xf95f005be7, 0xf960006012, 0xf961007387, 0xf962007570, 0xf963005317,
    0xf9640078fb, 0xf965004fbf, 0xf966005fa9, 0xf967004e0d, 0xf968006ccc, 0xf969006578,
    0xf96a007d22, 0xf96b0053c3, 0xf96c00585e, 0xf96d007701, 0xf96e008449, 0xf96f008aaa,
    0xf970006bba, 0xf971008fb0, 0xf972006c88, 0xf9730062fe, 0xf9740082e5, 0xf9750063a0,
    0xf976007565, 0xf977004eae, 0xf978005169, 0xf9790051c9, 0xf97a006881, 0xf97b007ce7,
    0xf97c00826f, 0xf97d008ad2, 0xf97e0091cf, 0xf97f0052f5]),
  (0x3e6, [0xf980005442, 0xf981005973, 0xf982005eec, 0xf9830065c5, 0xf984006ffe, 0xf98500792a,
    0xf9860095ad, 0xf987009a6a, 0xf988009e97, 0xf989009ece, 0xf98a00529b, 0xf98b0066c6,
    0xf98c006b77, 0xf98d008f62, 0xf98e005e74, 0xf98f006190, 0xf990006200, 0xf99100649a,
    0xf992006f23, 0xf993007149, 0xf994007489, 0xf9950079ca, 0xf996007df4, 0xf99700806f,
    0xf998008f26, 0xf9990084ee, 0xf99a009023, 0xf99b00934a, 0xf99c005217, 0xf99d0052a3,
    0xf99e0054bd, 0xf99f0070c8, 0xf9a00088c2, 0xf9a1008aaa, 0xf9a2005ec9, 0xf9a3005ff5,
    0xf9a400637b, 0xf9a5006bae, 0xf9a6007c3e, 0xf9a7007375, 0xf9a8004ee4, 0xf9a90056f9,
    0xf9aa005be7, 0xf9ab005dba, 0xf9ac00601c, 0xf9ad0073b2, 0xf9ae007469, 0xf9af007f9a,
    0xf9b0008046, 0xf9b1009234, 0xf9b20096f6, 0xf9b3009748, 0xf9b4009818, 0xf9b5004f8b,
    0xf9b60079ae, 0xf9b70091b4, 0xf9b80096b8, 0xf9b90060e1, 0xf9ba004e86, 0xf9bb0050da,
    0xf9bc005bee, 0xf9bd005c3f, 0xf9be006599, 0xf9bf006a02]),
  (0x3e7, [0xf9c00071ce, 0xf9c1007642, 0xf9c20084fc, 0xf9c300907c, 0xf9c4009f8d, 0xf9c5006688,
    0xf9c600962e, 0xf9c7005289, 0xf9c800677b, 0xf9c90067f3, 0xf9ca006d41, 0xf9cb006e9c,
    0xf9cc007409, 0xf9cd007559, 0xf9ce00786b, 0xf9cf007d10, 0xf9d000985e, 0xf9d100516d,
    0xf9d200622e, 0xf9d3009678, 0xf9d400502b, 0xf9d5005d19, 0xf9d6006dea, 0xf9d7008f2a,
    0xf9d8005f8b, 0xf9d9006144, 0xf9da006817, 0xf9db007387, 0xf9dc009686, 0xf9dd005229,
    0xf9de00540f, 0xf9df005c65, 0xf9e0006613, 0xf9e100674e, 0xf9e20068a8, 0xf9e3006ce5,
    0xf9e4007406, 0xf9e50075e2, 0xf9e6007f79, 0xf9e70088cf, 0xf9e80088e1, 0xf9e90091cc,
    0xf9ea0096e2, 0xf9eb00533f, 0xf9ec006eba, 0xf9ed00541d, 0xf9ee0071d0, 0xf9ef007498,
    0xf9f00085fa, 0xf9f10096a3, 0xf9f2009c57, 0xf9f3009e9f, 0xf9f4006797, 0xf9f5006dcb,
    0xf9f60081e8, 0xf9f7007acb, 0xf9f8007b20, 0xf9f9007c92, 0xf9fa0072c0, 0xf9fb007099,
    0xf9fc008b58, 0xf9fd004ec0, 0xf9fe008336, 0xf9ff00523a]),
  (0x3e8, [0xfa00005207, 0xfa01005ea6, 0xfa020062d3, 0xfa03007cd6, 0xfa04005b85, 0xfa05006d1e,
    0xfa060066b4, 0xfa07008f3b, 0xfa0800884c, 0xfa0900964d, 0xfa0a00898b, 0xfa0b005ed3,
    0xfa0c005140, 0xfa0d0055c0, 0xfa1000585a, 0xfa12006674, 0xfa150051de, 0xfa1600732a,
    0xfa170076ca, 0xfa1800793c, 0xfa1900795e, 0xfa1a007965, 0xfa1b00798f, 0xfa1c009756,
    0xfa1d007cbe, 0xfa1e007fbd, 0xfa20008612, 0xfa22008af8, 0xfa25009038, 0xfa260090fd,
    0xfa2a0098ef, 0xfa2b0098fc, 0xfa2c009928, 0xfa2d009db4, 0xfa2e0090de, 0xfa2f0096b7,
    0xfa30004fae, 0xfa310050e7, 0xfa3200514d, 0xfa330052c9, 0xfa340052e4, 0xfa35005351,
    0xfa3600559d, 0xfa37005606, 0xfa38005668, 0xfa39005840, 0xfa3a0058a8, 0xfa3b005c64,
    0xfa3c005c6e, 0xfa3d006094, 0xfa3e006168, 0xfa3f00618e]),
  (0x3e9, [0xfa400061f2, 0xfa4100654f, 0xfa420065e2, 0xfa43006691, 0xfa44006885, 0xfa45006d77,
    0xfa46006e1a, 0xfa47006f22, 0xfa4800716e, 0xfa4900722b, 0xfa4a007422, 0xfa4b007891,
    0xfa4c00793e, 0xfa4d007949, 0xfa4e007948, 0xfa4f007950, 0xfa50007956, 0xfa5100795d,
    0xfa5200798d, 0xfa5300798e, 0xfa54007a40, 0xfa55007a81, 0xfa56007bc0, 0xfa57007df4,
    0xfa58007e09, 0xfa59007e41, 0xfa5a007f72, 0xfa5b008005, 0xfa5c0081ed, 0xfa5d008279,
    0xfa5e008279, 0xfa5f008457, 0xfa60008910, 0xfa61008996, 0xfa62008b01, 0xfa63008b39,
    0xfa64008cd3, 0xfa65008d08, 0xfa66008fb6, 0xfa67009038, 0xfa680096e3, 0xfa690097ff,
    0xfa6a00983b, 0xfa6b006075, 0xfa6c0242ee, 0xfa6d008218, 0xfa70004e26, 0xfa710051b5,
    0xfa72005168, 0xfa73004f80, 0xfa74005145, 0xfa75005180, 0xfa760052c7, 0xfa770052fa,
    0xfa7800559d, 0xfa79005555, 0xfa7a005599, 0xfa7b0055e2, 0xfa7c00585a, 0xfa7d0058b3,
    0xfa7e005944, 0xfa7f005954]),
  (0x3ea, [0xfa80005a62, 0xfa81005b28, 0xfa82005ed2, 0xfa83005ed9, 0xfa84005f69, 0xfa85005fad,
    0xfa860060d8, 0xfa8700614e, 0xfa88006108, 0xfa8900618e, 0xfa8a006160, 0xfa8b0061f2,
    0xfa8c006234, 0xfa8d0063c4, 0xfa8e00641c, 0xfa8f006452, 0xfa90006556, 0xfa91006674,
    0xfa92006717, 0xfa9300671b, 0xfa94006756, 0xfa95006b79, 0xfa96006bba, 0xfa97006d41,
    0xfa98006edb, 0xfa99006ecb, 0xfa9a006f22, 0xfa9b00701e, 0xfa9c00716e, 0xfa9d0077a7,
    0xfa9e007235, 0xfa9f0072af, 0xfaa000732a, 0xfaa1007471, 0xfaa2007506, 0xfaa300753b,
    0xfaa400761d, 0xfaa500761f, 0xfaa60076ca, 0xfaa70076db, 0xfaa80076f4, 0xfaa900774a,
    0xfaaa007740, 0xfaab0078cc, 0xfaac007ab1, 0xfaad007bc0, 0xfaae007c7b, 0xfaaf007d5b,
    0xfab0007df4, 0xfab1007f3e, 0xfab2008005, 0xfab3008352, 0xfab40083ef, 0xfab5008779,
    0xfab6008941, 0xfab7008986, 0xfab8008996, 0xfab9008abf, 0xfaba008af8, 0xfabb008acb,
    0xfabc008b01, 0xfabd008afe, 0xfabe008aed, 0xfabf008b39]),
  (0x3eb, [0xfac0008b8a, 0xfac1008d08, 0xfac2008f38, 0xfac3009072, 0xfac4009199, 0xfac5009276,
    0xfac600967c, 0xfac70096e3, 0xfac8009756, 0xfac90097db, 0xfaca0097ff, 0xfacb00980b,
    0xfacc00983b, 0xfacd009b12, 0xface009f9c, 0xfacf02284a, 0xfad0022844, 0xfad10233d5,
    0xfad2003b9d, 0xfad3004018, 0xfad4004039, 0xfad5025249, 0xfad6025cd0, 0xfad7027ed3,
    0xfad8009f43, 0xfad9009f8e]),
  (0x3ec, [0xfb00000066000066, 0xfb01000066000069, 0xfb0200006600006c, 0xfb03000066000066000069,
    0xfb0400006600006600006c, 0xfb05000073000074, 0xfb06000073000074, 0xfb13000574000576,
    0xfb14000574000565, 0xfb1500057400056b, 0xfb1600057e000576, 0xfb1700057400056d,
    0xfb1d0005d90005b4, 0xfb1f0005f20005b7, 0xfb200005e2, 0xfb210005d0, 0xfb220005d3, 0xfb230005d4,
    0xfb240005db, 0xfb250005dc, 0xfb260005dd, 0xfb270005e8, 0xfb280005ea, 0xfb2900002b,
    0xfb2a0005e90005c1, 0xfb2b0005e90005c2, 0xfb2c0005e90005bc0005c1, 0xfb2d0005e90005bc0005c2,
    0xfb2e0005d00005b7, 0xfb2f0005d00005b8, 0xfb300005d00005bc, 0xfb310005d10005bc,
    0xfb320005d20005bc, 0xfb330005d30005bc, 0xfb340005d40005bc, 0xfb350005d50005bc,
    0xfb360005d60005bc, 0xfb380005d80005bc, 0xfb390005d90005bc, 0xfb3a0005da0005bc,
    0xfb3b0005db0005bc, 0xfb3c0005dc0005bc, 0xfb3e0005de0005bc]),
  (0x3ed, [0xfb400005e00005bc, 0xfb410005e10005bc, 0xfb430005e30005bc, 0xfb440005e40005bc,
    0xfb460005e60005bc, 0xfb470005e70005bc, 0xfb480005e80005bc, 0xfb490005e90005bc,
    0xfb4a0005ea0005bc, 0xfb4b0005d50005b9, 0xfb4c0005d10005bf, 0xfb4d0005db0005bf,
    0xfb4e0005e40005bf, 0xfb4f0005d00005dc, 0xfb50000671, 0xfb51000671, 0xfb5200067b, 0xfb5300067b,
    0xfb5400067b, 0xfb5500067b, 0xfb5600067e, 0xfb5700067e, 0xfb5800067e, 0xfb5900067e,
    0xfb5a000680, 0xfb5b000680, 0xfb5c000680, 0xfb5d000680, 0xfb5e00067a, 0xfb5f00067a,
    0xfb6000067a, 0xfb6100067a, 0xfb6200067f, 0xfb6300067f, 0xfb6400067f, 0xfb6500067f,
    0xfb66000679, 0xfb67000679, 0xfb68000679, 0xfb69000679, 0xfb6a0006a4, 0xfb6b0006a4,
    0xfb6c0006a4, 0xfb6d0006a4, 0xfb6e0006a6, 0xfb6f0006a6, 0xfb700006a6, 0xfb710006a6,
    0xfb72000684, 0xfb73000684, 0xfb74000684, 0xfb75000684, 0xfb76000683, 0xfb77000683,
    0xfb78000683, 0xfb79000683, 0xfb7a000686, 0xfb7b000686, 0xfb7c000686, 0xfb7d000686,
    0xfb7e000687, 0xfb7f000687])]

def rowsFB80 : Table := [
  (0x3ee, [0xfb80000687, 0xfb81000687, 0xfb8200068d, 0xfb8300068d, 0xfb8400068c, 0xfb8500068c,
    0xfb8600068e, 0xfb8700068e, 0xfb88000688, 0xfb89000688, 0xfb8a000698, 0xfb8b000698,
    0xfb8c000691, 0xfb8d000691, 0xfb8e0006a9, 0xfb8f0006a9, 0xfb900006a9, 0xfb910006a9,
    0xfb920006af, 0xfb930006af, 0xfb940006af, 0xfb950006af, 0xfb960006b3, 0xfb970006b3,
    0xfb980006b3, 0xfb990006b3, 0xfb9a0006b1, 0xfb9b0006b1, 0xfb9c0006b1, 0xfb9d0006b1,
    0xfb9e0006ba, 0xfb9f0006ba, 0xfba00006bb, 0xfba10006bb, 0xfba20006bb, 0xfba30006bb,
    0xfba40006d5000654, 0xfba50006d5000654, 0xfba60006c1, 0xfba70006c1, 0xfba80006c1, 0xfba90006c1,
    0xfbaa0006be, 0xfbab0006be, 0xfbac0006be, 0xfbad0006be, 0xfbae0006d2, 0xfbaf0006d2,
    0xfbb00006d2000654, 0xfbb10006d2000654]),
  (0x3ef, [0xfbd30006ad, 0xfbd40006ad, 0xfbd50006ad, 0xfbd60006ad, 0xfbd70006c7, 0xfbd80006c7,
    0xfbd90006c6, 0xfbda0006c6, 0xfbdb0006c8, 0xfbdc0006c8, 0xfbdd0006c7000674, 0xfbde0006cb,
    0xfbdf0006cb, 0xfbe00006c5, 0xfbe10006c5, 0xfbe20006c9, 0xfbe30006c9, 0xfbe40006d0,
    0xfbe50006d0, 0xfbe60006d0, 0xfbe70006d0, 0xfbe8000649, 0xfbe9000649, 0xfbea00064a000654000627,
    0xfbeb00064a000654000627, 0xfbec00064a0006540006d5, 0xfbed00064a0006540006d5,
    0xfbee00064a000654000648, 0xfbef00064a000654000648, 0xfbf000064a0006540006c7,
    0xfbf100064a0006540006c7, 0xfbf200064a0006540006c6, 0xfbf300064a0006540006c6,
    0xfbf400064a0006540006c8, 0xfbf500064a0006540006c8, 0xfbf600064a0006540006d0,
    0xfbf700064a0006540006d0, 0xfbf800064a0006540006d0, 0xfbf900064a000654000649,
    0xfbfa00064a000654000649, 0xfbfb00064a000654000649, 0xfbfc0006cc, 0xfbfd0006cc, 0xfbfe0006cc,
    0xfbff0006cc]),
  (0x3f0, [0xfc0000064a00065400062c, 0xfc0100064a00065400062d, 0xfc0200064a000654000645,
    0xfc0300064a000654000649, 0xfc0400064a00065400064a, 0xfc0500062800062c, 0xfc0600062800062d,
    0xfc0700062800062e, 0xfc08000628000645, 0xfc09000628000649, 0xfc0a00062800064a,
    0xfc0b00062a00062c, 0xfc0c00062a00062d, 0xfc0d00062a00062e, 0xfc0e00062a000645,
    0xfc0f00062a000649, 0xfc1000062a00064a, 0xfc1100062b00062c, 0xfc1200062b000645,
    0xfc1300062b000649, 0xfc1400062b00064a, 0xfc1500062c00062d, 0xfc1600062c000645,
    0xfc1700062d00062c, 0xfc1800062d000645, 0xfc1900062e00062c, 0xfc1a00062e00062d,
    0xfc1b00062e000645, 0xfc1c00063300062c, 0xfc1d00063300062d, 0xfc1e00063300062e,
    0xfc1f000633000645, 0xfc2000063500062d, 0xfc21000635000645, 0xfc2200063600062c,
    0xfc2300063600062d, 0xfc2400063600062e, 0xfc25000636000645, 0xfc2600063700062d,
    0xfc27000637000645, 0xfc28000638000645, 0xfc2900063900062c, 0xfc2a000639000645,
    0xfc2b00063a00062c, 0xfc2c00063a000645, 0xfc2d00064100062c, 0xfc2e00064100062d,
    0xfc2f00064100062e, 0xfc30000641000645, 0xfc31000641000649, 0xfc3200064100064a,
    0xfc3300064200062d, 0xfc34000642000645, 0xfc35000642000649, 0xfc3600064200064a,
    0xfc37000643000627, 0xfc3800064300062c, 0xfc3900064300062d, 0xfc3a00064300062e,
    0xfc3b000643000644, 0xfc3c000643000645, 0xfc3d000643000649, 0xfc3e00064300064a,
    0xfc3f00064400062c]),
  (0x3f1, [0xfc4000064400062d, 0xfc4100064400062e, 0xfc42000644000645, 0xfc43000644000649,
    0xfc4400064400064a, 0xfc4500064500062c, 0xfc4600064500062d, 0xfc4700064500062e,
    0xfc48000645000645, 0xfc49000645000649, 0xfc4a00064500064a, 0xfc4b00064600062c,
    0xfc4c00064600062d, 0xfc4d00064600062e, 0xfc4e000646000645, 0xfc4f000646000649,
    0xfc5000064600064a, 0xfc5100064700062c, 0xfc52000647000645, 0xfc53000647000649,
    0xfc5400064700064a, 0xfc5500064a00062c, 0xfc5600064a00062d, 0xfc5700064a00062e,
    0xfc5800064a000645, 0xfc5900064a000649, 0xfc5a00064a00064a, 0xfc5b000630000670,
    0xfc5c000631000670, 0xfc5d000649000670, 0xfc5e00002000064c000651, 0xfc5f00002000064d000651,
    0xfc6000002000064e000651, 0xfc6100002000064f000651, 0xfc62000020000650000651,
    0xfc63000020000651000670, 0xfc6400064a000654000631, 0xfc6500064a000654000632,
    0xfc6600064a000654000645, 0xfc6700064a000654000646, 0xfc6800064a000654000649,
    0xfc6900064a00065400064a, 0xfc6a000628000631, 0xfc6b000628000632, 0xfc6c000628000645,
    0xfc6d000628000646, 0xfc6e000628000649, 0xfc6f00062800064a, 0xfc7000062a000631,
    0xfc7100062a000632, 0xfc7200062a000645, 0xfc7300062a000646, 0xfc7400062a000649,
    0xfc7500062a00064a, 0xfc7600062b000631, 0xfc7700062b000632, 0xfc7800062b000645,
    0xfc7900062b000646, 0xfc7a00062b000649, 0xfc7b00062b00064a, 0xfc7c000641000649,
    0xfc7d00064100064a, 0xfc7e000642000649, 0xfc7f00064200064a]),
  (0x3f2, [0xfc80000643000627, 0xfc81000643000644, 0xfc82000643000645, 0xfc83000643000649,
    0xfc8400064300064a, 0xfc85000644000645, 0xfc86000644000649, 0xfc8700064400064a,
    0xfc88000645000627, 0xfc89000645000645, 0xfc8a000646000631, 0xfc8b000646000632,
    0xfc8c000646000645, 0xfc8d000646000646, 0xfc8e000646000649, 0xfc8f00064600064a,
    0xfc90000649000670, 0xfc9100064a000631, 0xfc9200064a000632, 0xfc9300064a000645,
    0xfc9400064a000646, 0xfc9500064a000649, 0xfc9600064a00064a, 0xfc9700064a00065400062c,
    0xfc9800064a00065400062d, 0xfc9900064a00065400062e, 0xfc9a00064a000654000645,
    0xfc9b00064a000654000647, 0xfc9c00062800062c, 0xfc9d00062800062d, 0xfc9e00062800062e,
    0xfc9f000628000645, 0xfca0000628000647, 0xfca100062a00062c, 0xfca200062a00062d,
    0xfca300062a00062e, 0xfca400062a000645, 0xfca500062a000647, 0xfca600062b000645,
    0xfca700062c00062d, 0xfca800062c000645, 0xfca900062d00062c, 0xfcaa00062d000645,
    0xfcab00062e00062c, 0xfcac00062e000645, 0xfcad00063300062c, 0xfcae00063300062d,
    0xfcaf00063300062e, 0xfcb0000633000645, 0xfcb100063500062d, 0xfcb200063500062e,
    0xfcb3000635000645, 0xfcb400063600062c, 0xfcb500063600062d, 0xfcb600063600062e,
    0xfcb7000636000645, 0xfcb800063700062d, 0xfcb9000638000645, 0xfcba00063900062c,
    0xfcbb000639000645, 0xfcbc00063a00062c, 0xfcbd00063a000645, 0xfcbe00064100062c,
    0xfcbf00064100062d]),
  (0x3f3, [0xfcc000064100062e, 0xfcc1000641000645, 0xfcc200064200062d, 0xfcc3000642000645,
    0xfcc400064300062c, 0xfcc500064300062d, 0xfcc600064300062e, 0xfcc7000643000644,
    0xfcc8000643000645, 0xfcc900064400062c, 0xfcca00064400062d, 0xfccb00064400062e,
    0xfccc000644000645, 0xfccd000644000647, 0xfcce00064500062c, 0xfccf00064500062d,
    0xfcd000064500062e, 0xfcd1000645000645, 0xfcd200064600062c, 0xfcd300064600062d,
    0xfcd400064600062e, 0xfcd5000646000645, 0xfcd6000646000647, 0xfcd700064700062c,
    0xfcd8000647000645, 0xfcd9000647000670, 0xfcda00064a00062c, 0xfcdb00064a00062d,
    0xfcdc00064a00062e, 0xfcdd00064a000645, 0xfcde00064a000647, 0xfcdf00064a000654000645,
    0xfce000064a000654000647, 0xfce1000628000645, 0xfce2000628000647, 0xfce300062a000645,
    0xfce400062a000647, 0xfce500062b000645, 0xfce600062b000647, 0xfce7000633000645,
    0xfce8000633000647, 0xfce9000634000645, 0xfcea000634000647, 0xfceb000643000644,
    0xfcec000643000645, 0xfced000644000645, 0xfcee000646000645, 0xfcef000646000647,
    0xfcf000064a000645, 0xfcf100064a000647, 0xfcf200064000064e000651, 0xfcf300064000064f000651,
    0xfcf4000640000650000651, 0xfcf5000637000649, 0xfcf600063700064a, 0xfcf7000639000649,
    0xfcf800063900064a, 0xfcf900063a000649, 0xfcfa00063a00064a, 0xfcfb000633000649,
    0xfcfc00063300064a, 0xfcfd000634000649, 0xfcfe00063400064a, 0xfcff00062d000649]),
  (0x3f4, [0xfd0000062d00064a, 0xfd0100062c000649, 0xfd0200062c00064a, 0xfd0300062e000649,
    0xfd0400062e00064a, 0xfd05000635000649, 0xfd0600063500064a, 0xfd07000636000649,
    0xfd0800063600064a, 0xfd0900063400062c, 0xfd0a00063400062d, 0xfd0b00063400062e,
    0xfd0c000634000645, 0xfd0d000634000631, 0xfd0e000633000631, 0xfd0f000635000631,
    0xfd10000636000631, 0xfd11000637000649, 0xfd1200063700064a, 0xfd13000639000649,
    0xfd1400063900064a, 0xfd1500063a000649, 0xfd1600063a00064a, 0xfd17000633000649,
    0xfd1800063300064a, 0xfd19000634000649, 0xfd1a00063400064a, 0xfd1b00062d000649,
    0xfd1c00062d00064a, 0xfd1d00062c000649, 0xfd1e00062c00064a, 0xfd1f00062e000649,
    0xfd2000062e00064a, 0xfd21000635000649, 0xfd2200063500064a, 0xfd23000636000649,
    0xfd2400063600064a, 0xfd2500063400062c, 0xfd2600063400062d, 0xfd2700063400062e,
    0xfd28000634000645, 0xfd29000634000631, 0xfd2a000633000631, 0xfd2b000635000631,
    0xfd2c000636000631, 0xfd2d00063400062c, 0xfd2e00063400062d, 0xfd2f00063400062e,
    0xfd30000634000645, 0xfd31000633000647, 0xfd32000634000647, 0xfd33000637000645,
    0xfd3400063300062c, 0xfd3500063300062d, 0xfd3600063300062e, 0xfd3700063400062c,
    0xfd3800063400062d, 0xfd3900063400062e, 0xfd3a000637000645, 0xfd3b000638000645,
    0xfd3c00062700064b, 0xfd3d00062700064b]),
  (0x3f5, [0xfd5000062a00062c000645, 0xfd5100062a00062d00062c, 0xfd5200062a00062d00062c,
    0xfd5300062a00062d000645, 0xfd5400062a00062e000645, 0xfd5500062a00064500062c,
    0xfd5600062a00064500062d, 0xfd5700062a00064500062e, 0xfd5800062c00064500062d,
    0xfd5900062c00064500062d, 0xfd5a00062d00064500064a, 0xfd5b00062d000645000649,
    0xfd5c00063300062d00062c, 0xfd5d00063300062c00062d, 0xfd5e00063300062c000649,
    0xfd5f00063300064500062d, 0xfd6000063300064500062d, 0xfd6100063300064500062c,
    0xfd62000633000645000645, 0xfd63000633000645000645, 0xfd6400063500062d00062d,
    0xfd6500063500062d00062d, 0xfd66000635000645000645, 0xfd6700063400062d000645,
    0xfd6800063400062d000645, 0xfd6900063400062c00064a, 0xfd6a00063400064500062e,
    0xfd6b00063400064500062e, 0xfd6c000634000645000645, 0xfd6d000634000645000645,
    0xfd6e00063600062d000649, 0xfd6f00063600062e000645, 0xfd7000063600062e000645,
    0xfd7100063700064500062d, 0xfd7200063700064500062d, 0xfd73000637000645000645,
    0xfd7400063700064500064a, 0xfd7500063900062c000645, 0xfd76000639000645000645,
    0xfd77000639000645000645, 0xfd78000639000645000649, 0xfd7900063a000645000645,
    0xfd7a00063a00064500064a, 0xfd7b00063a000645000649, 0xfd7c00064100062e000645,
    0xfd7d00064100062e000645, 0xfd7e00064200064500062d, 0xfd7f000642000645000645]),
  (0x3f6, [0xfd8000064400062d000645, 0xfd8100064400062d00064a, 0xfd8200064400062d000649,
    0xfd8300064400062c00062c, 0xfd8400064400062c00062c, 0xfd8500064400062e000645,
    0xfd8600064400062e000645, 0xfd8700064400064500062d, 0xfd8800064400064500062d,
    0xfd8900064500062d00062c, 0xfd8a00064500062d000645, 0xfd8b00064500062d00064a,
    0xfd8c00064500062c00062d, 0xfd8d00064500062c000645, 0xfd8e00064500062e00062c,
    0xfd8f00064500062e000645, 0xfd9200064500062c00062e, 0xfd9300064700064500062c,
    0xfd94000647000645000645, 0xfd9500064600062d000645, 0xfd9600064600062d000649,
    0xfd9700064600062c000645, 0xfd9800064600062c000645, 0xfd9900064600062c000649,
    0xfd9a00064600064500064a, 0xfd9b000646000645000649, 0xfd9c00064a000645000645,
    0xfd9d00064a000645000645, 0xfd9e00062800062e00064a, 0xfd9f00062a00062c00064a,
    0xfda000062a00062c000649, 0xfda100062a00062e00064a, 0xfda200062a00062e000649,
    0xfda300062a00064500064a, 0xfda400062a000645000649, 0xfda500062c00064500064a,
    0xfda600062c00062d000649, 0xfda700062c000645000649, 0xfda800063300062e000649,
    0xfda900063500062d00064a, 0xfdaa00063400062d00064a, 0xfdab00063600062d00064a,
    0xfdac00064400062c00064a, 0xfdad00064400064500064a, 0xfdae00064a00062d00064a,
    0xfdaf00064a00062c00064a, 0xfdb000064a00064500064a, 0xfdb100064500064500064a,
    0xfdb200064200064500064a, 0xfdb300064600062d00064a, 0xfdb400064200064500062d,
    0xfdb500064400062d000645, 0xfdb600063900064500064a, 0xfdb700064300064500064a,
    0xfdb800064600062c00062d, 0xfdb900064500062e00064a, 0xfdba00064400062c000645,
    0xfdbb000643000645000645, 0xfdbc00064400062c000645, 0xfdbd00064600062c00062d,
    0xfdbe00062c00062d00064a, 0xfdbf00062d00062c00064a]),
  (0x3f7, [0xfdc000064500062c00064a, 0xfdc100064100064500064a, 0xfdc200062800062d00064a,
    0xfdc3000643000645000645, 0xfdc400063900062c000645, 0xfdc5000635000645000645,
    0xfdc600063300062e00064a, 0xfdc700064600062c00064a, 0xfdf00006350006440006d2,
    0xfdf10006420006440006d2, 0xfdf2000627000644000644000647, 0xfdf3000627000643000628000631,
    0xfdf400064500062d00064500062f, 0xfdf5000635000644000639000645, 0xfdf6000631000633000648000644,
    0xfdf700063900064400064a000647, 0xfdf8000648000633000644000645, 0xfdf9000635000644000649,
    0xfdfa00063500064400064900002000062700064400064400064700002000063900064400064a000647000020000648000633000644000645,
    0xfdfb00062c00064400002000062c000644000627000644000647, 0xfdfc0006310006cc000627000644]),
  (0x3f8, [0xfe1000002c, 0xfe11003001, 0xfe12003002, 0xfe1300003a, 0xfe1400003b, 0xfe15000021,
    0xfe1600003f, 0xfe17003016, 0xfe18003017, 0xfe1900002e00002e00002e, 0xfe3000002e00002e,
    0xfe31002014, 0xfe32002013, 0xfe3300005f, 0xfe3400005f, 0xfe35000028, 0xfe36000029,
    0xfe3700007b, 0xfe3800007d, 0xfe39003014, 0xfe3a003015, 0xfe3b003010, 0xfe3c003011,
    0xfe3d00300a, 0xfe3e00300b, 0xfe3f003008])]

def rowsFE40 : Table := [
  (0x3f9, [0xfe40003009, 0xfe4100300c, 0xfe4200300d, 0xfe4300300e, 0xfe4400300f, 0xfe4700005b,
    0xfe4800005d, 0xfe49000020000305, 0xfe4a000020000305, 0xfe4b000020000305, 0xfe4c000020000305,
    0xfe4d00005f, 0xfe4e00005f, 0xfe4f00005f, 0xfe5000002c, 0xfe51003001, 0xfe5200002e,
    0xfe5400003b, 0xfe5500003a, 0xfe5600003f, 0xfe57000021, 0xfe58002014, 0xfe59000028,
    0xfe5a000029, 0xfe5b00007b, 0xfe5c00007d, 0xfe5d003014, 0xfe5e003015, 0xfe5f000023,
    0xfe60000026, 0xfe6100002a, 0xfe6200002b, 0xfe6300002d, 0xfe6400003c, 0xfe6500003e,
    0xfe6600003d, 0xfe6800005c, 0xfe69000024, 0xfe6a000025, 0xfe6b000040, 0xfe7000002000064b,
    0xfe7100064000064b, 0xfe7200002000064c, 0xfe7400002000064d, 0xfe7600002000064e,
    0xfe7700064000064e, 0xfe7800002000064f, 0xfe7900064000064f, 0xfe7a000020000650,
    0xfe7b000640000650, 0xfe7c000020000651, 0xfe7d000640000651, 0xfe7e000020000652,
    0xfe7f000640000652]),
  (0x3fa, [0xfe80000621, 0xfe81000627000653, 0xfe82000627000653, 0xfe83000627000654,
    0xfe84000627000654, 0xfe85000648000654, 0xfe86000648000654, 0xfe87000627000655,
    0xfe88000627000655, 0xfe8900064a000654, 0xfe8a00064a000654, 0xfe8b00064a000654,
    0xfe8c00064a000654, 0xfe8d000627, 0xfe8e000627, 0xfe8f000628, 0xfe90000628, 0xfe91000628,
    0xfe92000628, 0xfe93000629, 0xfe94000629, 0xfe9500062a, 0xfe9600062a, 0xfe9700062a,
    0xfe9800062a, 0xfe9900062b, 0xfe9a00062b, 0xfe9b00062b, 0xfe9c00062b, 0xfe9d00062c,
    0xfe9e00062c, 0xfe9f00062c, 0xfea000062c, 0xfea100062d, 0xfea200062d, 0xfea300062d,
    0xfea400062d, 0xfea500062e, 0xfea600062e, 0xfea700062e, 0xfea800062e, 0xfea900062f,
    0xfeaa00062f, 0xfeab000630, 0xfeac000630, 0xfead000631, 0xfeae000631, 0xfeaf000632,
    0xfeb0000632, 0xfeb1000633, 0xfeb2000633, 0xfeb3000633, 0xfeb4000633, 0xfeb5000634,
    0xfeb6000634, 0xfeb7000634, 0xfeb8000634, 0xfeb9000635, 0xfeba000635, 0xfebb000635,
    0xfebc000635, 0xfebd000636, 0xfebe000636, 0xfebf000636]),
  (0x3fb, [0xfec0000636, 0xfec1000637, 0xfec2000637, 0xfec3000637, 0xfec4000637, 0xfec5000638,
    0xfec6000638, 0xfec7000638, 0xfec8000638, 0xfec9000639, 0xfeca000639, 0xfecb000639,
    0xfecc000639, 0xfecd00063a, 0xfece00063a, 0xfecf00063a, 0xfed000063a, 0xfed1000641,
    0xfed2000641, 0xfed3000641, 0xfed4000641, 0xfed5000642, 0xfed6000642, 0xfed7000642,
    0xfed8000642, 0xfed9000643, 0xfeda000643, 0xfedb000643, 0xfedc000643, 0xfedd000644,
    0xfede000644, 0xfedf000644, 0xfee0000644, 0xfee1000645, 0xfee2000645, 0xfee3000645,
    0xfee4000645, 0xfee5000646, 0xfee6000646, 0xfee7000646, 0xfee8000646, 0xfee9000647,
    0xfeea000647, 0xfeeb000647, 0xfeec000647, 0xfeed000648, 0xfeee000648, 0xfeef000649,
    0xfef0000649, 0xfef100064a, 0xfef200064a, 0xfef300064a, 0xfef400064a, 0xfef5000644000627000653,
    0xfef6000644000627000653, 0xfef7000644000627000654, 0xfef8000644000627000654,
    0xfef9000644000627000655, 0xfefa000644000627000655, 0xfefb000644000627, 0xfefc000644000627]),
  (0x3fc, [0xff01000021, 0xff02000022, 0xff03000023, 0xff04000024, 0xff05000025, 0xff06000026,
    0xff07000027, 0xff08000028, 0xff09000029, 0xff0a00002a, 0xff0b00002b, 0xff0c00002c,
    0xff0d00002d, 0xff0e00002e, 0xff0f00002f, 0xff10000030, 0xff11000031, 0xff12000032,
    0xff13000033, 0xff14000034, 0xff15000035, 0xff16000036, 0xff17000037, 0xff18000038,
    0xff19000039, 0xff1a00003a, 0xff1b00003b, 0xff1c00003c, 0xff1d00003d, 0xff1e00003e,
    0xff1f00003f, 0xff20000040, 0xff21000041, 0xff22000042, 0xff23000043, 0xff24000044,
    0xff25000045, 0xff26000046, 0xff27000047, 0xff28000048, 0xff29000049, 0xff2a00004a,
    0xff2b00004b, 0xff2c00004c, 0xff2d00004d, 0xff2e00004e, 0xff2f00004f, 0xff30000050,
    0xff31000051, 0xff32000052, 0xff33000053, 0xff34000054, 0xff35000055, 0xff36000056,
    0xff37000057, 0xff38000058, 0xff39000059, 0xff3a00005a, 0xff3b00005b, 0xff3c00005c,
    0xff3d00005d, 0xff3e00005e, 0xff3f00005f]),
  (0x3fd, [0xff40000060, 0xff41000061, 0xff42000062, 0xff43000063, 0xff44000064, 0xff45000065,
    0xff46000066, 0xff47000067, 0xff48000068, 0xff49000069, 0xff4a00006a, 0xff4b00006b,
    0xff4c00006c, 0xff4d00006d, 0xff4e00006e, 0xff4f00006f, 0xff50000070, 0xff51000071,
    0xff52000072, 0xff53000073, 0xff54000074, 0xff55000075, 0xff56000076, 0xff57000077,
    0xff58000078, 0xff59000079, 0xff5a00007a, 0xff5b00007b, 0xff5c00007c, 0xff5d00007d,
    0xff5e00007e, 0xff5f002985, 0xff60002986, 0xff61003002, 0xff6200300c, 0xff6300300d,
    0xff64003001, 0xff650030fb, 0xff660030f2, 0xff670030a1, 0xff680030a3, 0xff690030a5,
    0xff6a0030a7, 0xff6b0030a9, 0xff6c0030e3, 0xff6d0030e5, 0xff6e0030e7, 0xff6f0030c3,
    0xff700030fc, 0xff710030a2, 0xff720030a4, 0xff730030a6, 0xff740030a8, 0xff750030aa,
    0xff760030ab, 0xff770030ad, 0xff780030af, 0xff790030b1, 0xff7a0030b3, 0xff7b0030b5,
    0xff7c0030b7, 0xff7d0030b9, 0xff7e0030bb, 0xff7f0030bd]),
  (0x3fe, [0xff800030bf, 0xff810030c1, 0xff820030c4, 0xff830030c6, 0xff840030c8, 0xff850030ca,
    0xff860030cb, 0xff870030cc, 0xff880030cd, 0xff890030ce, 0xff8a0030cf, 0xff8b0030d2,
    0xff8c0030d5, 0xff8d0030d8, 0xff8e0030db, 0xff8f0030de, 0xff900030df, 0xff910030e0,
    0xff920030e1, 0xff930030e2, 0xff940030e4, 0xff950030e6, 0xff960030e8, 0xff970030e9,
    0xff980030ea, 0xff990030eb, 0xff9a0030ec, 0xff9b0030ed, 0xff9c0030ef, 0xff9d0030f3,
    0xff9e003099, 0xff9f00309a, 0xffa0001160, 0xffa1001100, 0xffa2001101, 0xffa30011aa,
    0xffa4001102, 0xffa50011ac, 0xffa60011ad, 0xffa7001103, 0xffa8001104, 0xffa9001105,
    0xffaa0011b0, 0xffab0011b1, 0xffac0011b2, 0xffad0011b3, 0xffae0011b4, 0xffaf0011b5,
    0xffb000111a, 0xffb1001106, 0xffb2001107, 0xffb3001108, 0xffb4001121, 0xffb5001109,
    0xffb600110a, 0xffb700110b, 0xffb800110c, 0xffb900110d, 0xffba00110e, 0xffbb00110f,
    0xffbc001110, 0xffbd001111, 0xffbe001112]),
  (0x3ff, [0xffc2001161, 0xffc3001162, 0xffc4001163, 0xffc5001164, 0xffc6001165, 0xffc7001166,
    0xffca001167, 0xffcb001168, 0xffcc001169, 0xffcd00116a, 0xffce00116b, 0xffcf00116c,
    0xffd200116d, 0xffd300116e, 0xffd400116f, 0xffd5001170, 0xffd6001171, 0xffd7001172,
    0xffda001173, 0xffdb001174, 0xffdc001175, 0xffe00000a2, 0xffe10000a3, 0xffe20000ac,
    0xffe3000020000304, 0xffe40000a6, 0xffe50000a5, 0xffe60020a9, 0xffe8002502, 0xffe9002190,
    0xffea002191, 0xffeb002192, 0xffec002193, 0xffed0025a0, 0xffee0025cb]),
  (0x41e, [0x107810002d0, 0x107820002d1, 0x107830000e6, 0x10784000299, 0x10785000253,
    0x107870002a3, 0x1078800ab66, 0x107890002a5, 0x1078a0002a4, 0x1078b000256, 0x1078c000257,
    0x1078d001d91, 0x1078e000258, 0x1078f00025e, 0x107900002a9, 0x10791000264, 0x10792000262,
    0x10793000260, 0x1079400029b, 0x10795000127, 0x1079600029c, 0x10797000267, 0x10798000284,
    0x107990002aa, 0x1079a0002ab, 0x1079b00026c, 0x1079c01df04, 0x1079d00a78e, 0x1079e00026e,
    0x1079f01df05, 0x107a000028e, 0x107a101df06, 0x107a20000f8, 0x107a3000276, 0x107a4000277,
    0x107a5000071, 0x107a600027a, 0x107a701df08, 0x107a800027d, 0x107a900027e, 0x107aa000280,
    0x107ab0002a8, 0x107ac0002a6, 0x107ad00ab67, 0x107ae0002a7, 0x107af000288, 0x107b0002c71,
    0x107b200028f, 0x107b30002a1, 0x107b40002a2, 0x107b5000298, 0x107b60001c0, 0x107b70001c1,
    0x107b80001c2, 0x107b901df0a, 0x107ba01df1e]),
  (0x442, [0x1109a0110990110ba, 0x1109c01109b0110ba, 0x110ab0110a50110ba]),
  (0x444, [0x1112e011131011127, 0x1112f011132011127]),
  (0x44d, [0x1134b01134701133e, 0x1134c011347011357]),
  (0x452, [0x114bb0114b90114ba, 0x114bc0114b90114b0, 0x114be0114b90114bd]),
  (0x456, [0x115ba0115b80115af, 0x115bb0115b90115af]),
  (0x464, [0x11938011935011930]),
  (0x745, [0x1d15e01d15701d165, 0x1d15f01d15801d165, 0x1d16001d15801d16501d16e,
    0x1d16101d15801d16501d16f, 0x1d16201d15801d16501d170, 0x1d16301d15801d16501d171,
    0x1d16401d15801d16501d172]),
  (0x746, [0x1d1bb01d1b901d165, 0x1d1bc01d1ba01d165, 0x1d1bd01d1b901d16501d16e,
    0x1d1be01d1ba01d16501d16e, 0x1d1bf01d1b901d16501d16f]),
  (0x747, [0x1d1c001d1ba01d16501d16f]),
  (0x750, [0x1d400000041, 0x1d401000042, 0x1d402000043, 0x1d403000044, 0x1d404000045,
    0x1d405000046, 0x1d406000047, 0x1d407000048, 0x1d408000049, 0x1d40900004a, 0x1d40a00004b,
    0x1d40b00004c, 0x1d40c00004d, 0x1d40d00004e, 0x1d40e00004f, 0x1d40f000050, 0x1d410000051,
    0x1d411000052, 0x1d412000053, 0x1d413000054, 0x1d414000055, 0x1d415000056, 0x1d416000057,
    0x1d417000058, 0x1d418000059, 0x1d41900005a, 0x1d41a000061, 0x1d41b000062, 0x1d41c000063,
    0x1d41d000064, 0x1d41e000065, 0x1d41f000066, 0x1d420000067, 0x1d421000068, 0x1d422000069,
    0x1d42300006a, 0x1d42400006b, 0x1d42500006c, 0x1d42600006d, 0x1d42700006e, 0x1d42800006f,
    0x1d429000070, 0x1d42a000071, 0x1d42b000072, 0x1d42c000073, 0x1d42d000074, 0x1d42e000075,
    0x1d42f000076, 0x1d430000077, 0x1d431000078, 0x1d432000079, 0x1d43300007a, 0x1d434000041,
    0x1d435000042, 0x1d436000043, 0x1d437000044, 0x1d438000045, 0x1d439000046, 0x1d43a000047,
    0x1d43b000048, 0x1d43c000049, 0x1d43d00004a, 0x1d43e00004b, 0x1d43f00004c])]

def rows1D440 : Table := [
  (0x751, [0x1d44000004d, 0x1d44100004e, 0x1d44200004f, 0x1d443000050, 0x1d444000051,
    0x1d445000052, 0x1d446000053, 0x1d447000054, 0x1d448000055, 0x1d449000056, 0x1d44a000057,
    0x1d44b000058, 0x1d44c000059, 0x1d44d00005a, 0x1d44e000061, 0x1d44f000062, 0x1d450000063,
    0x1d451000064, 0x1d452000065, 0x1d453000066, 0x1d454000067, 0x1d456000069, 0x1d45700006a,
    0x1d45800006b, 0x1d45900006c, 0x1d45a00006d, 0x1d45b00006e, 0x1d45c00006f, 0x1d45d000070,
    0x1d45e000071, 0x1d45f000072, 0x1d460000073, 0x1d461000074, 0x1d462000075, 0x1d463000076,
    0x1d464000077, 0x1d465000078, 0x1d466000079, 0x1d46700007a, 0x1d468000041, 0x1d469000042,
    0x1d46a000043, 0x1d46b000044, 0x1d46c000045, 0x1d46d000046, 0x1d46e000047, 0x1d46f000048,
    0x1d470000049, 0x1d47100004a, 0x1d47200004b, 0x1d47300004c, 0x1d47400004d, 0x1d47500004e,
    0x1d47600004f, 0x1d477000050, 0x1d478000051, 0x1d479000052, 0x1d47a000053, 0x1d47b000054,
    0x1d47c000055, 0x1d47d000056, 0x1d47e000057, 0x1d47f000058]),
  (0x752, [0x1d480000059, 0x1d48100005a, 0x1d482000061, 0x1d483000062, 0x1d484000063,
    0x1d485000064, 0x1d486000065, 0x1d487000066, 0x1d488000067, 0x1d489000068, 0x1d48a000069,
    0x1d48b00006a, 0x1d48c00006b, 0x1d48d00006c, 0x1d48e00006d, 0x1d48f00006e, 0x1d49000006f,
    0x1d491000070, 0x1d492000071, 0x1d493000072, 0x1d494000073, 0x1d495000074, 0x1d496000075,
    0x1d497000076, 0x1d498000077, 0x1d499000078, 0x1d49a000079, 0x1d49b00007a, 0x1d49c000041,
    0x1d49e000043, 0x1d49f000044, 0x1d4a2000047, 0x1d4a500004a, 0x1d4a600004b, 0x1d4a900004e,
    0x1d4aa00004f, 0x1d4ab000050, 0x1d4ac000051, 0x1d4ae000053, 0x1d4af000054, 0x1d4b0000055,
    0x1d4b1000056, 0x1d4b2000057, 0x1d4b3000058, 0x1d4b4000059, 0x1d4b500005a, 0x1d4b6000061,
    0x1d4b7000062, 0x1d4b8000063, 0x1d4b9000064, 0x1d4bb000066, 0x1d4bd000068, 0x1d4be000069,
    0x1d4bf00006a]),
  (0x753, [0x1d4c000006b, 0x1d4c100006c, 0x1d4c200006d, 0x1d4c300006e, 0x1d4c5000070,
    0x1d4c6000071, 0x1d4c7000072, 0x1d4c8000073, 0x1d4c9000074, 0x1d4ca000075, 0x1d4cb000076,
    0x1d4cc000077, 0x1d4cd000078, 0x1d4ce000079, 0x1d4cf00007a, 0x1d4d0000041, 0x1d4d1000042,
    0x1d4d2000043, 0x1d4d3000044, 0x1d4d4000045, 0x1d4d5000046, 0x1d4d6000047, 0x1d4d7000048,
    0x1d4d8000049, 0x1d4d900004a, 0x1d4da00004b, 0x1d4db00004c, 0x1d4dc00004d, 0x1d4dd00004e,
    0x1d4de00004f, 0x1d4df000050, 0x1d4e0000051, 0x1d4e1000052, 0x1d4e2000053, 0x1d4e3000054,
    0x1d4e4000055, 0x1d4e5000056, 0x1d4e6000057, 0x1d4e7000058, 0x1d4e8000059, 0x1d4e900005a,
    0x1d4ea000061, 0x1d4eb000062, 0x1d4ec000063, 0x1d4ed000064, 0x1d4ee000065, 0x1d4ef000066,
    0x1d4f0000067, 0x1d4f1000068, 0x1d4f2000069, 0x1d4f300006a, 0x1d4f400006b, 0x1d4f500006c,
    0x1d4f600006d, 0x1d4f700006e, 0x1d4f800006f, 0x1d4f9000070, 0x1d4fa000071, 0x1d4fb000072,
    0x1d4fc000073, 0x1d4fd000074, 0x1d4fe000075, 0x1d4ff000076]),
  (0x754, [0x1d500000077, 0x1d501000078, 0x1d502000079, 0x1d50300007a, 0x1d504000041,
    0x1d505000042, 0x1d507000044, 0x1d508000045, 0x1d509000046, 0x1d50a000047, 0x1d50d00004a,
    0x1d50e00004b, 0x1d50f00004c, 0x1d51000004d, 0x1d51100004e, 0x1d51200004f, 0x1d513000050,
    0x1d514000051, 0x1d516000053, 0x1d517000054, 0x1d518000055, 0x1d519000056, 0x1d51a000057,
    0x1d51b000058, 0x1d51c000059, 0x1d51e000061, 0x1d51f000062, 0x1d520000063, 0x1d521000064,
    0x1d522000065, 0x1d523000066, 0x1d524000067, 0x1d525000068, 0x1d526000069, 0x1d52700006a,
    0x1d52800006b, 0x1d52900006c, 0x1d52a00006d, 0x1d52b00006e, 0x1d52c00006f, 0x1d52d000070,
    0x1d52e000071, 0x1d52f000072, 0x1d530000073, 0x1d531000074, 0x1d532000075, 0x1d533000076,
    0x1d534000077, 0x1d535000078, 0x1d536000079, 0x1d53700007a, 0x1d538000041, 0x1d539000042,
    0x1d53b000044, 0x1d53c000045, 0x1d53d000046, 0x1d53e000047]),
  (0x755, [0x1d540000049, 0x1d54100004a, 0x1d54200004b, 0x1d54300004c, 0x1d54400004d,
    0x1d54600004f, 0x1d54a000053, 0x1d54b000054, 0x1d54c000055, 0x1d54d000056, 0x1d54e000057,
    0x1d54f000058, 0x1d550000059, 0x1d552000061, 0x1d553000062, 0x1d554000063, 0x1d555000064,
    0x1d556000065, 0x1d557000066, 0x1d558000067, 0x1d559000068, 0x1d55a000069, 0x1d55b00006a,
    0x1d55c00006b, 0x1d55d00006c, 0x1d55e00006d, 0x1d55f00006e, 0x1d56000006f, 0x1d561000070,
    0x1d562000071, 0x1d563000072, 0x1d564000073, 0x1d565000074, 0x1d566000075, 0x1d567000076,
    0x1d568000077, 0x1d569000078, 0x1d56a000079, 0x1d56b00007a, 0x1d56c000041, 0x1d56d000042,
    0x1d56e000043, 0x1d56f000044, 0x1d570000045, 0x1d571000046, 0x1d572000047, 0x1d573000048,
    0x1d574000049, 0x1d57500004a, 0x1d57600004b, 0x1d57700004c, 0x1d57800004d, 0x1d57900004e,
    0x1d57a00004f, 0x1d57b000050, 0x1d57c000051, 0x1d57d000052, 0x1d57e000053, 0x1d57f000054]),
  (0x756, [0x1d580000055, 0x1d581000056, 0x1d582000057, 0x1d583000058, 0x1d584000059,
    0x1d58500005a, 0x1d586000061, 0x1d587000062, 0x1d588000063, 0x1d589000064, 0x1d58a000065,
    0x1d58b000066, 0x1d58c000067, 0x1d58d000068, 0x1d58e000069, 0x1d58f00006a, 0x1d59000006b,
    0x1d59100006c, 0x1d59200006d, 0x1d59300006e, 0x1d59400006f, 0x1d595000070, 0x1d596000071,
    0x1d597000072, 0x1d598000073, 0x1d599000074, 0x1d59a000075, 0x1d59b000076, 0x1d59c000077,
    0x1d59d000078, 0x1d59e000079, 0x1d59f00007a, 0x1d5a0000041, 0x1d5a1000042, 0x1d5a2000043,
    0x1d5a3000044, 0x1d5a4000045, 0x1d5a5000046, 0x1d5a6000047, 0x1d5a7000048, 0x1d5a8000049,
    0x1d5a900004a, 0x1d5aa00004b, 0x1d5ab00004c, 0x1d5ac00004d, 0x1d5ad00004e, 0x1d5ae00004f,
    0x1d5af000050, 0x1d5b0000051, 0x1d5b1000052, 0x1d5b2000053, 0x1d5b3000054, 0x1d5b4000055,
    0x1d5b5000056, 0x1d5b6000057, 0x1d5b7000058, 0x1d5b8000059, 0x1d5b900005a, 0x1d5ba000061,
    0x1d5bb000062, 0x1d5bc000063, 0x1d5bd000064, 0x1d5be000065, 0x1d5bf000066]),
  (0x757, [0x1d5c0000067, 0x1d5c1000068, 0x1d5c2000069, 0x1d5c300006a, 0x1d5c400006b,
    0x1d5c500006c, 0x1d5c600006d, 0x1d5c700006e, 0x1d5c800006f, 0x1d5c9000070, 0x1d5ca000071,
    0x1d5cb000072, 0x1d5cc000073, 0x1d5cd000074, 0x1d5ce000075, 0x1d5cf000076, 0x1d5d0000077,
    0x1d5d1000078, 0x1d5d2000079, 0x1d5d300007a, 0x1d5d4000041, 0x1d5d5000042, 0x1d5d6000043,
    0x1d5d7000044, 0x1d5d8000045, 0x1d5d9000046, 0x1d5da000047, 0x1d5db000048, 0x1d5dc000049,
    0x1d5dd00004a, 0x1d5de00004b, 0x1d5df00004c, 0x1d5e000004d, 0x1d5e100004e, 0x1d5e200004f,
    0x1d5e3000050, 0x1d5e4000051, 0x1d5e5000052, 0x1d5e6000053, 0x1d5e7000054, 0x1d5e8000055,
    0x1d5e9000056, 0x1d5ea000057, 0x1d5eb000058, 0x1d5ec000059, 0x1d5ed00005a, 0x1d5ee000061,
    0x1d5ef000062, 0x1d5f0000063, 0x1d5f1000064, 0x1d5f2000065, 0x1d5f3000066, 0x1d5f4000067,
    0x1d5f5000068, 0x1d5f6000069, 0x1d5f700006a, 0x1d5f800006b, 0x1d5f900006c, 0x1d5fa00006d,
    0x1d5fb00006e, 0x1d5fc00006f, 0x1d5fd000070, 0x1d5fe000071, 0x1d5ff000072]),
  (0x758, [0x1d600000073, 0x1d601000074, 0x1d602000075, 0x1d603000076, 0x1d604000077,
    0x1d605000078, 0x1d606000079, 0x1d60700007a, 0x1d608000041, 0x1d609000042, 0x1d60a000043,
    0x1d60b000044, 0x1d60c000045, 0x1d60d000046, 0x1d60e000047, 0x1d60f000048, 0x1d610000049,
    0x1d61100004a, 0x1d61200004b, 0x1d61300004c, 0x1d61400004d, 0x1d61500004e, 0x1d61600004f,
    0x1d617000050, 0x1d618000051, 0x1d619000052, 0x1d61a000053, 0x1d61b000054, 0x1d61c000055,
    0x1d61d000056, 0x1d61e000057, 0x1d61f000058, 0x1d620000059, 0x1d62100005a, 0x1d622000061,
    0x1d623000062, 0x1d624000063, 0x1d625000064, 0x1d626000065, 0x1d627000066, 0x1d628000067,
    0x1d629000068, 0x1d62a000069, 0x1d62b00006a, 0x1d62c00006b, 0x1d62d00006c, 0x1d62e00006d,
    0x1d62f00006e, 0x1d63000006f, 0x1d631000070, 0x1d632000071, 0x1d633000072, 0x1d634000073,
    0x1d635000074, 0x1d636000075, 0x1d637000076, 0x1d638000077, 0x1d639000078, 0x1d63a000079,
    0x1d63b00007a, 0x1d63c000041, 0x1d63d000042, 0x1d63e000043, 0x1d63f000044]),
  (0x759, [0x1d640000045, 0x1d641000046, 0x1d642000047, 0x1d643000048, 0x1d644000049,
    0x1d64500004a, 0x1d64600004b, 0x1d64700004c, 0x1d64800004d, 0x1d64900004e, 0x1d64a00004f,
    0x1d64b000050, 0x1d64c000051, 0x1d64d000052, 0x1d64e000053, 0x1d64f000054, 0x1d650000055,
    0x1d651000056, 0x1d652000057, 0x1d653000058, 0x1d654000059, 0x1d65500005a, 0x1d656000061,
    0x1d657000062, 0x1d658000063, 0x1d659000064, 0x1d65a000065, 0x1d65b000066, 0x1d65c000067,
    0x1d65d000068, 0x1d65e000069, 0x1d65f00006a, 0x1d66000006b, 0x1d66100006c, 0x1d66200006d,
    0x1d66300006e, 0x1d66400006f, 0x1d665000070, 0x1d666000071, 0x1d667000072, 0x1d668000073,
    0x1d669000074, 0x1d66a000075, 0x1d66b000076, 0x1d66c000077, 0x1d66d000078, 0x1d66e000079,
    0x1d66f00007a, 0x1d670000041, 0x1d671000042, 0x1d672000043, 0x1d673000044, 0x1d674000045,
    0x1d675000046, 0x1d676000047, 0x1d677000048, 0x1d678000049, 0x1d67900004a, 0x1d67a00004b,
    0x1d67b00004c, 0x1d67c00004d, 0x1d67d00004e, 0x1d67e00004f, 0x1d67f000050])]

def rows1D680 : Table := [
  (0x75a, [0x1d680000051, 0x1d681000052, 0x1d682000053, 0x1d683000054, 0x1d684000055,
    0x1d685000056, 0x1d686000057, 0x1d687000058, 0x1d688000059, 0x1d68900005a, 0x1d68a000061,
    0x1d68b000062, 0x1d68c000063, 0x1d68d000064, 0x1d68e000065, 0x1d68f000066, 0x1d690000067,
    0x1d691000068, 0x1d692000069, 0x1d69300006a, 0x1d69400006b, 0x1d69500006c, 0x1d69600006d,
    0x1d69700006e, 0x1d69800006f, 0x1d699000070, 0x1d69a000071, 0x1d69b000072, 0x1d69c000073,
    0x1d69d000074, 0x1d69e000075, 0x1d69f000076, 0x1d6a0000077, 0x1d6a1000078, 0x1d6a2000079,
    0x1d6a300007a, 0x1d6a4000131, 0x1d6a5000237, 0x1d6a8000391, 0x1d6a9000392, 0x1d6aa000393,
    0x1d6ab000394, 0x1d6ac000395, 0x1d6ad000396, 0x1d6ae000397, 0x1d6af000398, 0x1d6b0000399,
    0x1d6b100039a, 0x1d6b200039b, 0x1d6b300039c, 0x1d6b400039d, 0x1d6b500039e, 0x1d6b600039f,
    0x1d6b70003a0, 0x1d6b80003a1, 0x1d6b9000398, 0x1d6ba0003a3, 0x1d6bb0003a4, 0x1d6bc0003a5,
    0x1d6bd0003a6, 0x1d6be0003a7, 0x1d6bf0003a8]),
  (0x75b, [0x1d6c00003a9, 0x1d6c1002207, 0x1d6c20003b1, 0x1d6c30003b2, 0x1d6c40003b3,
    0x1d6c50003b4, 0x1d6c60003b5, 0x1d6c70003b6, 0x1d6c80003b7, 0x1d6c90003b8, 0x1d6ca0003b9,
    0x1d6cb0003ba, 0x1d6cc0003bb, 0x1d6cd0003bc, 0x1d6ce0003bd, 0x1d6cf0003be, 0x1d6d00003bf,
    0x1d6d10003c0, 0x1d6d20003c1, 0x1d6d30003c2, 0x1d6d40003c3, 0x1d6d50003c4, 0x1d6d60003c5,
    0x1d6d70003c6, 0x1d6d80003c7, 0x1d6d90003c8, 0x1d6da0003c9, 0x1d6db002202, 0x1d6dc0003b5,
    0x1d6dd0003b8, 0x1d6de0003ba, 0x1d6df0003c6, 0x1d6e00003c1, 0x1d6e10003c0, 0x1d6e2000391,
    0x1d6e3000392, 0x1d6e4000393, 0x1d6e5000394, 0x1d6e6000395, 0x1d6e7000396, 0x1d6e8000397,
    0x1d6e9000398, 0x1d6ea000399, 0x1d6eb00039a, 0x1d6ec00039b, 0x1d6ed00039c, 0x1d6ee00039d,
    0x1d6ef00039e, 0x1d6f000039f, 0x1d6f10003a0, 0x1d6f20003a1, 0x1d6f3000398, 0x1d6f40003a3,
    0x1d6f50003a4, 0x1d6f60003a5, 0x1d6f70003a6, 0x1d6f80003a7, 0x1d6f90003a8, 0x1d6fa0003a9,
    0x1d6fb002207, 0x1d6fc0003b1, 0x1d6fd0003b2, 0x1d6fe0003b3, 0x1d6ff0003b4]),
  (0x75c, [0x1d7000003b5, 0x1d7010003b6, 0x1d7020003b7, 0x1d7030003b8, 0x1d7040003b9,
    0x1d7050003ba, 0x1d7060003bb, 0x1d7070003bc, 0x1d7080003bd, 0x1d7090003be, 0x1d70a0003bf,
    0x1d70b0003c0, 0x1d70c0003c1, 0x1d70d0003c2, 0x1d70e0003c3, 0x1d70f0003c4, 0x1d7100003c5,
    0x1d7110003c6, 0x1d7120003c7, 0x1d7130003c8, 0x1d7140003c9, 0x1d715002202, 0x1d7160003b5,
    0x1d7170003b8, 0x1d7180003ba, 0x1d7190003c6, 0x1d71a0003c1, 0x1d71b0003c0, 0x1d71c000391,
    0x1d71d000392, 0x1d71e000393, 0x1d71f000394, 0x1d720000395, 0x1d721000396, 0x1d722000397,
    0x1d723000398, 0x1d724000399, 0x1d72500039a, 0x1d72600039b, 0x1d72700039c, 0x1d72800039d,
    0x1d72900039e, 0x1d72a00039f, 0x1d72b0003a0, 0x1d72c0003a1, 0x1d72d000398, 0x1d72e0003a3,
    0x1d72f0003a4, 0x1d7300003a5, 0x1d7310003a6, 0x1d7320003a7, 0x1d7330003a8, 0x1d7340003a9,
    0x1d735002207, 0x1d7360003b1, 0x1d7370003b2, 0x1d7380003b3, 0x1d7390003b4, 0x1d73a0003b5,
    0x1d73b0003b6, 0x1d73c0003b7, 0x1d73d0003b8, 0x1d73e0003b9, 0x1d73f0003ba]),
  (0x75d, [0x1d7400003bb, 0x1d7410003bc, 0x1d7420003bd, 0x1d7430003be, 0x1d7440003bf,
    0x1d7450003c0, 0x1d7460003c1, 0x1d7470003c2, 0x1d7480003c3, 0x1d7490003c4, 0x1d74a0003c5,
    0x1d74b0003c6, 0x1d74c0003c7, 0x1d74d0003c8, 0x1d74e0003c9, 0x1d74f002202, 0x1d7500003b5,
    0x1d7510003b8, 0x1d7520003ba, 0x1d7530003c6, 0x1d7540003c1, 0x1d7550003c0, 0x1d756000391,
    0x1d757000392, 0x1d758000393, 0x1d759000394, 0x1d75a000395, 0x1d75b000396, 0x1d75c000397,
    0x1d75d000398, 0x1d75e000399, 0x1d75f00039a, 0x1d76000039b, 0x1d76100039c, 0x1d76200039d,
    0x1d76300039e, 0x1d76400039f, 0x1d7650003a0, 0x1d7660003a1, 0x1d767000398, 0x1d7680003a3,
    0x1d7690003a4, 0x1d76a0003a5, 0x1d76b0003a6, 0x1d76c0003a7, 0x1d76d0003a8, 0x1d76e0003a9,
    0x1d76f002207, 0x1d7700003b1, 0x1d7710003b2, 0x1d7720003b3, 0x1d7730003b4, 0x1d7740003b5,
    0x1d7750003b6, 0x1d7760003b7, 0x1d7770003b8, 0x1d7780003b9, 0x1d7790003ba, 0x1d77a0003bb,
    0x1d77b0003bc, 0x1d77c0003bd, 0x1d77d0003be, 0x1d77e0003bf, 0x1d77f0003c0]),
  (0x75e, [0x1d7800003c1, 0x1d7810003c2, 0x1d7820003c3, 0x1d7830003c4, 0x1d7840003c5,
    0x1d7850003c6, 0x1d7860003c7, 0x1d7870003c8, 0x1d7880003c9, 0x1d789002202, 0x1d78a0003b5,
    0x1d78b0003b8, 0x1d78c0003ba, 0x1d78d0003c6, 0x1d78e0003c1, 0x1d78f0003c0, 0x1d790000391,
    0x1d791000392, 0x1d792000393, 0x1d793000394, 0x1d794000395, 0x1d795000396, 0x1d796000397,
    0x1d797000398, 0x1d798000399, 0x1d79900039a, 0x1d79a00039b, 0x1d79b00039c, 0x1d79c00039d,
    0x1d79d00039e, 0x1d79e00039f, 0x1d79f0003a0, 0x1d7a00003a1, 0x1d7a1000398, 0x1d7a20003a3,
    0x1d7a30003a4, 0x1d7a40003a5, 0x1d7a50003a6, 0x1d7a60003a7, 0x1d7a70003a8, 0x1d7a80003a9,
    0x1d7a9002207, 0x1d7aa0003b1, 0x1d7ab0003b2, 0x1d7ac0003b3, 0x1d7ad0003b4, 0x1d7ae0003b5,
    0x1d7af0003b6, 0x1d7b00003b7, 0x1d7b10003b8, 0x1d7b20003b9, 0x1d7b30003ba, 0x1d7b40003bb,
    0x1d7b50003bc, 0x1d7b60003bd, 0x1d7b70003be, 0x1d7b80003bf, 0x1d7b90003c0, 0x1d7ba0003c1,
    0x1d7bb0003c2, 0x1d7bc0003c3, 0x1d7bd0003c4, 0x1d7be0003c5, 0x1d7bf0003c6]),
  (0x75f, [0x1d7c00003c7, 0x1d7c10003c8, 0x1d7c20003c9, 0x1d7c3002202, 0x1d7c40003b5,
    0x1d7c50003b8, 0x1d7c60003ba, 0x1d7c70003c6, 0x1d7c80003c1, 0x1d7c90003c0, 0x1d7ca0003dc,
    0x1d7cb0003dd, 0x1d7ce000030, 0x1d7cf000031, 0x1d7d0000032, 0x1d7d1000033, 0x1d7d2000034,
    0x1d7d3000035, 0x1d7d4000036, 0x1d7d5000037, 0x1d7d6000038, 0x1d7d7000039, 0x1d7d8000030,
    0x1d7d9000031, 0x1d7da000032, 0x1d7db000033, 0x1d7dc000034, 0x1d7dd000035, 0x1d7de000036,
    0x1d7df000037, 0x1d7e0000038, 0x1d7e1000039, 0x1d7e2000030, 0x1d7e3000031, 0x1d7e4000032,
    0x1d7e5000033, 0x1d7e6000034, 0x1d7e7000035, 0x1d7e8000036, 0x1d7e9000037, 0x1d7ea000038,
    0x1d7eb000039, 0x1d7ec000030, 0x1d7ed000031, 0x1d7ee000032, 0x1d7ef000033, 0x1d7f0000034,
    0x1d7f1000035, 0x1d7f2000036, 0x1d7f3000037, 0x1d7f4000038, 0x1d7f5000039, 0x1d7f6000030,
    0x1d7f7000031, 0x1d7f8000032, 0x1d7f9000033, 0x1d7fa000034, 0x1d7fb000035, 0x1d7fc000036,
    0x1d7fd000037, 0x1d7fe000038, 0x1d7ff000039]),
  (0x7b8, [0x1ee00000627, 0x1ee01000628, 0x1ee0200062c, 0x1ee0300062f, 0x1ee05000648,
    0x1ee06000632, 0x1ee0700062d, 0x1ee08000637, 0x1ee0900064a, 0x1ee0a000643, 0x1ee0b000644,
    0x1ee0c000645, 0x1ee0d000646, 0x1ee0e000633, 0x1ee0f000639, 0x1ee10000641, 0x1ee11000635,
    0x1ee12000642, 0x1ee13000631, 0x1ee14000634, 0x1ee1500062a, 0x1ee1600062b, 0x1ee1700062e,
    0x1ee18000630, 0x1ee19000636, 0x1ee1a000638, 0x1ee1b00063a, 0x1ee1c00066e, 0x1ee1d0006ba,
    0x1ee1e0006a1, 0x1ee1f00066f, 0x1ee21000628, 0x1ee2200062c, 0x1ee24000647, 0x1ee2700062d,
    0x1ee2900064a, 0x1ee2a000643, 0x1ee2b000644, 0x1ee2c000645, 0x1ee2d000646, 0x1ee2e000633,
    0x1ee2f000639, 0x1ee30000641, 0x1ee31000635, 0x1ee32000642, 0x1ee34000634, 0x1ee3500062a,
    0x1ee3600062b, 0x1ee3700062e, 0x1ee39000636, 0x1ee3b00063a]),
  (0x7b9, [0x1ee4200062c, 0x1ee4700062d, 0x1ee4900064a, 0x1ee4b000644, 0x1ee4d000646,
    0x1ee4e000633, 0x1ee4f000639, 0x1ee51000635, 0x1ee52000642, 0x1ee54000634, 0x1ee5700062e,
    0x1ee59000636, 0x1ee5b00063a, 0x1ee5d0006ba, 0x1ee5f00066f, 0x1ee61000628, 0x1ee6200062c,
    0x1ee64000647, 0x1ee6700062d, 0x1ee68000637, 0x1ee6900064a, 0x1ee6a000643, 0x1ee6c000645,
    0x1ee6d000646, 0x1ee6e000633, 0x1ee6f000639, 0x1ee70000641, 0x1ee71000635, 0x1ee72000642,
    0x1ee74000634, 0x1ee7500062a, 0x1ee7600062b, 0x1ee7700062e, 0x1ee79000636, 0x1ee7a000638,
    0x1ee7b00063a, 0x1ee7c00066e, 0x1ee7e0006a1]),
  (0x7ba, [0x1ee80000627, 0x1ee81000628, 0x1ee8200062c, 0x1ee8300062f, 0x1ee84000647,
    0x1ee85000648, 0x1ee86000632, 0x1ee8700062d, 0x1ee88000637, 0x1ee8900064a, 0x1ee8b000644,
    0x1ee8c000645, 0x1ee8d000646, 0x1ee8e000633, 0x1ee8f000639, 0x1ee90000641, 0x1ee91000635,
    0x1ee92000642, 0x1ee93000631, 0x1ee94000634, 0x1ee9500062a, 0x1ee9600062b, 0x1ee9700062e,
    0x1ee98000630, 0x1ee99000636, 0x1ee9a000638, 0x1ee9b00063a, 0x1eea1000628, 0x1eea200062c,
    0x1eea300062f, 0x1eea5000648, 0x1eea6000632, 0x1eea700062d, 0x1eea8000637, 0x1eea900064a,
    0x1eeab000644, 0x1eeac000645, 0x1eead000646, 0x1eeae000633, 0x1eeaf000639, 0x1eeb0000641,
    0x1eeb1000635, 0x1eeb2000642, 0x1eeb3000631, 0x1eeb4000634, 0x1eeb500062a, 0x1eeb600062b,
    0x1eeb700062e, 0x1eeb8000630, 0x1eeb9000636, 0x1eeba000638, 0x1eebb00063a]),
  (0x7c4, [0x1f10000003000002e, 0x1f10100003000002c, 0x1f10200003100002c, 0x1f10300003200002c,
    0x1f10400003300002c, 0x1f10500003400002c, 0x1f10600003500002c, 0x1f10700003600002c,
    0x1f10800003700002c, 0x1f10900003800002c, 0x1f10a00003900002c, 0x1f110000028000041000029,
    0x1f111000028000042000029, 0x1f112000028000043000029, 0x1f113000028000044000029,
    0x1f114000028000045000029, 0x1f115000028000046000029, 0x1f116000028000047000029,
    0x1f117000028000048000029, 0x1f118000028000049000029, 0x1f11900002800004a000029,
    0x1f11a00002800004b000029, 0x1f11b00002800004c000029, 0x1f11c00002800004d000029,
    0x1f11d00002800004e000029, 0x1f11e00002800004f000029, 0x1f11f000028000050000029,
    0x1f120000028000051000029, 0x1f121000028000052000029, 0x1f122000028000053000029,
    0x1f123000028000054000029, 0x1f124000028000055000029, 0x1f125000028000056000029,
    0x1f126000028000057000029, 0x1f127000028000058000029, 0x1f128000028000059000029,
    0x1f12900002800005a000029, 0x1f12a003014000053003015, 0x1f12b000043, 0x1f12c000052,
    0x1f12d000043000044, 0x1f12e00005700005a, 0x1f130000041, 0x1f131000042, 0x1f132000043,
    0x1f133000044, 0x1f134000045, 0x1f135000046, 0x1f136000047, 0x1f137000048, 0x1f138000049,
    0x1f13900004a, 0x1f13a00004b, 0x1f13b00004c, 0x1f13c00004d, 0x1f13d00004e, 0x1f13e00004f,
    0x1f13f000050]),
  (0x7c5, [0x1f140000051, 0x1f141000052, 0x1f142000053, 0x1f143000054, 0x1f144000055,
    0x1f145000056, 0x1f146000057, 0x1f147000058, 0x1f148000059, 0x1f14900005a, 0x1f14a000048000056,
    0x1f14b00004d000056, 0x1f14c000053000044, 0x1f14d000053000053, 0x1f14e000050000050000056,
    0x1f14f000057000043, 0x1f16a00004d000043, 0x1f16b00004d000044, 0x1f16c00004d000052]),
  (0x7c6, [0x1f19000004400004a])]

def rows1F200 : Table := [
  (0x7c8, [0x1f20000307b00304b, 0x1f2010030b30030b3, 0x1f2020030b5, 0x1f21000624b, 0x1f211005b57,
    0x1f2120053cc, 0x1f2130030c6003099, 0x1f214004e8c, 0x1f21500591a, 0x1f2160089e3, 0x1f217005929,
    0x1f218004ea4, 0x1f219006620, 0x1f21a007121, 0x1f21b006599, 0x1f21c00524d, 0x1f21d005f8c,
    0x1f21e00518d, 0x1f21f0065b0, 0x1f22000521d, 0x1f221007d42, 0x1f22200751f, 0x1f223008ca9,
    0x1f2240058f0, 0x1f225005439, 0x1f226006f14, 0x1f227006295, 0x1f228006355, 0x1f229004e00,
    0x1f22a004e09, 0x1f22b00904a, 0x1f22c005de6, 0x1f22d004e2d, 0x1f22e0053f3, 0x1f22f006307,
    0x1f230008d70, 0x1f231006253, 0x1f232007981, 0x1f233007a7a, 0x1f234005408, 0x1f235006e80,
    0x1f236006709, 0x1f237006708, 0x1f238007533, 0x1f239005272, 0x1f23a0055b6, 0x1f23b00914d]),
  (0x7c9, [0x1f24000301400672c003015, 0x1f241003014004e09003015, 0x1f242003014004e8c003015,
    0x1f243003014005b89003015, 0x1f2440030140070b9003015, 0x1f245003014006253003015,
    0x1f2460030140076d7003015, 0x1f2470030140052dd003015, 0x1f248003014006557003015, 0x1f250005f97,
    0x1f2510053ef]),
  (0x7ef, [0x1fbf0000030, 0x1fbf1000031, 0x1fbf2000032, 0x1fbf3000033, 0x1fbf4000034,
    0x1fbf5000035, 0x1fbf6000036, 0x1fbf7000037, 0x1fbf8000038, 0x1fbf9000039]),
  (0xbe0, [0x2f800004e3d, 0x2f801004e38, 0x2f802004e41, 0x2f803020122, 0x2f804004f60,
    0x2f805004fae, 0x2f806004fbb, 0x2f807005002, 0x2f80800507a, 0x2f809005099, 0x2f80a0050e7,
    0x2f80b0050cf, 0x2f80c00349e, 0x2f80d02063a, 0x2f80e00514d, 0x2f80f005154, 0x2f810005164,
    0x2f811005177, 0x2f81202051c, 0x2f8130034b9, 0x2f814005167, 0x2f81500518d, 0x2f81602054b,
    0x2f817005197, 0x2f8180051a4, 0x2f819004ecc, 0x2f81a0051ac, 0x2f81b0051b5, 0x2f81c0291df,
    0x2f81d0051f5, 0x2f81e005203, 0x2f81f0034df, 0x2f82000523b, 0x2f821005246, 0x2f822005272,
    0x2f823005277, 0x2f824003515, 0x2f8250052c7, 0x2f8260052c9, 0x2f8270052e4, 0x2f8280052fa,
    0x2f829005305, 0x2f82a005306, 0x2f82b005317, 0x2f82c005349, 0x2f82d005351, 0x2f82e00535a,
    0x2f82f005373, 0x2f83000537d, 0x2f83100537f, 0x2f83200537f, 0x2f83300537f, 0x2f834020a2c,
    0x2f835007070, 0x2f8360053ca, 0x2f8370053df, 0x2f838020b63, 0x2f8390053eb, 0x2f83a0053f1,
    0x2f83b005406, 0x2f83c00549e, 0x2f83d005438, 0x2f83e005448, 0x2f83f005468]),
  (0xbe1, [0x2f8400054a2, 0x2f8410054f6, 0x2f842005510, 0x2f843005553, 0x2f844005563,
    0x2f845005584, 0x2f846005584, 0x2f847005599, 0x2f8480055ab, 0x2f8490055b3, 0x2f84a0055c2,
    0x2f84b005716, 0x2f84c005606, 0x2f84d005717, 0x2f84e005651, 0x2f84f005674, 0x2f850005207,
    0x2f8510058ee, 0x2f8520057ce, 0x2f8530057f4, 0x2f85400580d, 0x2f85500578b, 0x2f856005832,
    0x2f857005831, 0x2f8580058ac, 0x2f8590214e4, 0x2f85a0058f2, 0x2f85b0058f7, 0x2f85c005906,
    0x2f85d00591a, 0x2f85e005922, 0x2f85f005962, 0x2f8600216a8, 0x2f8610216ea, 0x2f8620059ec,
    0x2f863005a1b, 0x2f864005a27, 0x2f8650059d8, 0x2f866005a66, 0x2f8670036ee, 0x2f8680036fc,
    0x2f869005b08, 0x2f86a005b3e, 0x2f86b005b3e, 0x2f86c0219c8, 0x2f86d005bc3, 0x2f86e005bd8,
    0x2f86f005be7, 0x2f870005bf3, 0x2f871021b18, 0x2f872005bff, 0x2f873005c06, 0x2f874005f53,
    0x2f875005c22, 0x2f876003781, 0x2f877005c60, 0x2f878005c6e, 0x2f879005cc0, 0x2f87a005c8d,
    0x2f87b021de4, 0x2f87c005d43, 0x2f87d021de6, 0x2f87e005d6e, 0x2f87f005d6b]),
  (0xbe2, [0x2f880005d7c, 0x2f881005de1, 0x2f882005de2, 0x2f88300382f, 0x2f884005dfd,
    0x2f885005e28, 0x2f886005e3d, 0x2f887005e69, 0x2f888003862, 0x2f889022183, 0x2f88a00387c,
    0x2f88b005eb0, 0x2f88c005eb3, 0x2f88d005eb6, 0x2f88e005eca, 0x2f88f02a392, 0x2f890005efe,
    0x2f891022331, 0x2f892022331, 0x2f893008201, 0x2f894005f22, 0x2f895005f22, 0x2f8960038c7,
    0x2f8970232b8, 0x2f8980261da, 0x2f899005f62, 0x2f89a005f6b, 0x2f89b0038e3, 0x2f89c005f9a,
    0x2f89d005fcd, 0x2f89e005fd7, 0x2f89f005ff9, 0x2f8a0006081, 0x2f8a100393a, 0x2f8a200391c,
    0x2f8a3006094, 0x2f8a40226d4, 0x2f8a50060c7, 0x2f8a6006148, 0x2f8a700614c, 0x2f8a800614e,
    0x2f8a900614c, 0x2f8aa00617a, 0x2f8ab00618e, 0x2f8ac0061b2, 0x2f8ad0061a4, 0x2f8ae0061af,
    0x2f8af0061de, 0x2f8b00061f2, 0x2f8b10061f6, 0x2f8b2006210, 0x2f8b300621b, 0x2f8b400625d,
    0x2f8b50062b1, 0x2f8b60062d4, 0x2f8b7006350, 0x2f8b8022b0c, 0x2f8b900633d, 0x2f8ba0062fc,
    0x2f8bb006368, 0x2f8bc006383, 0x2f8bd0063e4, 0x2f8be022bf1, 0x2f8bf006422]),
  (0xbe3, [0x2f8c00063c5, 0x2f8c10063a9, 0x2f8c2003a2e, 0x2f8c3006469, 0x2f8c400647e,
    0x2f8c500649d, 0x2f8c6006477, 0x2f8c7003a6c, 0x2f8c800654f, 0x2f8c900656c, 0x2f8ca02300a,
    0x2f8cb0065e3, 0x2f8cc0066f8, 0x2f8cd006649, 0x2f8ce003b19, 0x2f8cf006691, 0x2f8d0003b08,
    0x2f8d1003ae4, 0x2f8d2005192, 0x2f8d3005195, 0x2f8d4006700, 0x2f8d500669c, 0x2f8d60080ad,
    0x2f8d70043d9, 0x2f8d8006717, 0x2f8d900671b, 0x2f8da006721, 0x2f8db00675e, 0x2f8dc006753,
    0x2f8dd0233c3, 0x2f8de003b49, 0x2f8df0067fa, 0x2f8e0006785, 0x2f8e1006852, 0x2f8e2006885,
    0x2f8e302346d, 0x2f8e400688e, 0x2f8e500681f, 0x2f8e6006914, 0x2f8e7003b9d, 0x2f8e8006942,
    0x2f8e90069a3, 0x2f8ea0069ea, 0x2f8eb006aa8, 0x2f8ec0236a3, 0x2f8ed006adb, 0x2f8ee003c18,
    0x2f8ef006b21, 0x2f8f00238a7, 0x2f8f1006b54, 0x2f8f2003c4e, 0x2f8f3006b72, 0x2f8f4006b9f,
    0x2f8f5006bba, 0x2f8f6006bbb, 0x2f8f7023a8d, 0x2f8f8021d0b, 0x2f8f9023afa, 0x2f8fa006c4e,
    0x2f8fb023cbc, 0x2f8fc006cbf, 0x2f8fd006ccd, 0x2f8fe006c67, 0x2f8ff006d16]),
  (0xbe4, [0x2f900006d3e, 0x2f901006d77, 0x2f902006d41, 0x2f903006d69, 0x2f904006d78,
    0x2f905006d85, 0x2f906023d1e, 0x2f907006d34, 0x2f908006e2f, 0x2f909006e6e, 0x2f90a003d33,
    0x2f90b006ecb, 0x2f90c006ec7, 0x2f90d023ed1, 0x2f90e006df9, 0x2f90f006f6e, 0x2f910023f5e,
    0x2f911023f8e, 0x2f912006fc6, 0x2f913007039, 0x2f91400701e, 0x2f91500701b, 0x2f916003d96,
    0x2f91700704a, 0x2f91800707d, 0x2f919007077, 0x2f91a0070ad, 0x2f91b020525, 0x2f91c007145,
    0x2f91d024263, 0x2f91e00719c, 0x2f91f0243ab, 0x2f920007228, 0x2f921007235, 0x2f922007250,
    0x2f923024608, 0x2f924007280, 0x2f925007295, 0x2f926024735, 0x2f927024814, 0x2f92800737a,
    0x2f92900738b, 0x2f92a003eac, 0x2f92b0073a5, 0x2f92c003eb8, 0x2f92d003eb8, 0x2f92e007447,
    0x2f92f00745c, 0x2f930007471, 0x2f931007485, 0x2f9320074ca, 0x2f933003f1b, 0x2f934007524,
    0x2f935024c36, 0x2f93600753e, 0x2f937024c92, 0x2f938007570, 0x2f93902219f, 0x2f93a007610,
    0x2f93b024fa1, 0x2f93c024fb8, 0x2f93d025044, 0x2f93e003ffc, 0x2f93f004008]),
  (0xbe5, [0x2f9400076f4, 0x2f9410250f3, 0x2f9420250f2, 0x2f943025119, 0x2f944025133,
    0x2f94500771e, 0x2f94600771f, 0x2f94700771f, 0x2f94800774a, 0x2f949004039, 0x2f94a00778b,
    0x2f94b004046, 0x2f94c004096, 0x2f94d02541d, 0x2f94e00784e, 0x2f94f00788c, 0x2f9500078cc,
    0x2f9510040e3, 0x2f952025626, 0x2f953007956, 0x2f95402569a, 0x2f9550256c5, 0x2f95600798f,
    0x2f9570079eb, 0x2f95800412f, 0x2f959007a40, 0x2f95a007a4a, 0x2f95b007a4f, 0x2f95c02597c,
    0x2f95d025aa7, 0x2f95e025aa7, 0x2f95f007aee, 0x2f960004202, 0x2f961025bab, 0x2f962007bc6,
    0x2f963007bc9, 0x2f964004227, 0x2f965025c80, 0x2f966007cd2, 0x2f9670042a0, 0x2f968007ce8,
    0x2f969007ce3, 0x2f96a007d00, 0x2f96b025f86, 0x2f96c007d63, 0x2f96d004301, 0x2f96e007dc7,
    0x2f96f007e02, 0x2f970007e45, 0x2f971004334, 0x2f972026228, 0x2f973026247, 0x2f974004359,
    0x2f9750262d9, 0x2f976007f7a, 0x2f97702633e, 0x2f978007f95, 0x2f979007ffa, 0x2f97a008005,
    0x2f97b0264da, 0x2f97c026523, 0x2f97d008060, 0x2f97e0265a8, 0x2f97f008070]),
  (0xbe6, [0x2f98002335f, 0x2f9810043d5, 0x2f9820080b2, 0x2f983008103, 0x2f98400440b,
    0x2f98500813e, 0x2f986005ab5, 0x2f9870267a7, 0x2f9880267b5, 0x2f989023393, 0x2f98a02339c,
    0x2f98b008201, 0x2f98c008204, 0x2f98d008f9e, 0x2f98e00446b, 0x2f98f008291, 0x2f99000828b,
    0x2f99100829d, 0x2f9920052b3, 0x2f9930082b1, 0x2f9940082b3, 0x2f9950082bd, 0x2f9960082e6,
    0x2f997026b3c, 0x2f9980082e5, 0x2f99900831d, 0x2f99a008363, 0x2f99b0083ad, 0x2f99c008323,
    0x2f99d0083bd, 0x2f99e0083e7, 0x2f99f008457, 0x2f9a0008353, 0x2f9a10083ca, 0x2f9a20083cc,
    0x2f9a30083dc, 0x2f9a4026c36, 0x2f9a5026d6b, 0x2f9a6026cd5, 0x2f9a700452b, 0x2f9a80084f1,
    0x2f9a90084f3, 0x2f9aa008516, 0x2f9ab0273ca, 0x2f9ac008564, 0x2f9ad026f2c, 0x2f9ae00455d,
    0x2f9af004561, 0x2f9b0026fb1, 0x2f9b10270d2, 0x2f9b200456b, 0x2f9b3008650, 0x2f9b400865c,
    0x2f9b5008667, 0x2f9b6008669, 0x2f9b70086a9, 0x2f9b8008688, 0x2f9b900870e, 0x2f9ba0086e2,
    0x2f9bb008779, 0x2f9bc008728, 0x2f9bd00876b, 0x2f9be008786, 0x2f9bf0045d7]),
  (0xbe7, [0x2f9c00087e1, 0x2f9c1008801, 0x2f9c20045f9, 0x2f9c3008860, 0x2f9c4008863,
    0x2f9c5027667, 0x2f9c60088d7, 0x2f9c70088de, 0x2f9c8004635, 0x2f9c90088fa, 0x2f9ca0034bb,
    0x2f9cb0278ae, 0x2f9cc027966, 0x2f9cd0046be, 0x2f9ce0046c7, 0x2f9cf008aa0, 0x2f9d0008aed,
    0x2f9d1008b8a, 0x2f9d2008c55, 0x2f9d3027ca8, 0x2f9d4008cab, 0x2f9d5008cc1, 0x2f9d6008d1b,
    0x2f9d7008d77, 0x2f9d8027f2f, 0x2f9d9020804, 0x2f9da008dcb, 0x2f9db008dbc, 0x2f9dc008df0,
    0x2f9dd0208de, 0x2f9de008ed4, 0x2f9df008f38, 0x2f9e00285d2, 0x2f9e10285ed, 0x2f9e2009094,
    0x2f9e30090f1, 0x2f9e4009111, 0x2f9e502872e, 0x2f9e600911b, 0x2f9e7009238, 0x2f9e80092d7,
    0x2f9e90092d8, 0x2f9ea00927c, 0x2f9eb0093f9, 0x2f9ec009415, 0x2f9ed028bfa, 0x2f9ee00958b,
    0x2f9ef004995, 0x2f9f00095b7, 0x2f9f1028d77, 0x2f9f20049e6, 0x2f9f30096c3, 0x2f9f4005db2,
    0x2f9f5009723, 0x2f9f6029145, 0x2f9f702921a, 0x2f9f8004a6e, 0x2f9f9004a76, 0x2f9fa0097e0,
    0x2f9fb02940a, 0x2f9fc004ab2, 0x2f9fd029496, 0x2f9fe00980b, 0x2f9ff00980b])]

def rows2FA00 : Table := [
  (0xbe8, [0x2fa00009829, 0x2fa010295b6, 0x2fa020098e2, 0x2fa03004b33, 0x2fa04009929,
    0x2fa050099a7, 0x2fa060099c2, 0x2fa070099fe, 0x2fa08004bce, 0x2fa09029b30, 0x2fa0a009b12,
    0x2fa0b009c40, 0x2fa0c009cfd, 0x2fa0d004cce, 0x2fa0e004ced, 0x2fa0f009d67, 0x2fa1002a0ce,
    0x2fa11004cf8, 0x2fa1202a105, 0x2fa1302a20e, 0x2fa1402a291, 0x2fa15009ebb, 0x2fa16004d56,
    0x2fa17009ef9, 0x2fa18009efe, 0x2fa19009f05, 0x2fa1a009f0f, 0x2fa1b009f16, 0x2fa1c009f3b,
    0x2fa1d02a600])]

def table : Table :=
  rows0080 ++ rows1E00 ++ rows2140 ++ rows3140 ++ rowsA7C0 ++ rowsFB80 ++ rowsFE40 ++
    rows1D440 ++ rows1D680 ++ rows1F200 ++ rows2FA00

end Decomposition

/-- The jamo of the Hangul syllable that is the `s`-th of its block. -/
def hangulJamo (s : Nat) : List Char :=
  let leading := Char.ofNat (0x1100 + s / 588)
  let vowel := Char.ofNat (0x1161 + s % 588 / 28)
  if s % 28 = 0 then [leading, vowel] else [leading, vowel, Char.ofNat (0x11a7 + s % 28)]

/-- The full compatibility decomposition of one character. -/
def decompose (c : Char) : List Char :=
  if c.toNat < 0x80 then [c]
  else if 0xac00 ≤ c.toNat ∧ c.toNat < 0xd7a4 then hangulJamo (c.toNat - 0xac00)
  else (Decomposition.table.image? c).getD [c]

end SymbolIndex.Unicode
