import SymbolIndex.Unicode.Table

/-!
# Case folding

Full case folding (Unicode 14.0): `foldChar` gives the characters that stand for one character
when case is ignored, and `fold` folds a text.
-/

namespace SymbolIndex.Unicode

namespace CaseFolding

def rows0080 : Table := [
  (0x2, [0xb50003bc]),
  (0x3, [0xc00000e0, 0xc10000e1, 0xc20000e2, 0xc30000e3, 0xc40000e4, 0xc50000e5, 0xc60000e6,
    0xc70000e7, 0xc80000e8, 0xc90000e9, 0xca0000ea, 0xcb0000eb, 0xcc0000ec, 0xcd0000ed, 0xce0000ee,
    0xcf0000ef, 0xd00000f0, 0xd10000f1, 0xd20000f2, 0xd30000f3, 0xd40000f4, 0xd50000f5, 0xd60000f6,
    0xd80000f8, 0xd90000f9, 0xda0000fa, 0xdb0000fb, 0xdc0000fc, 0xdd0000fd, 0xde0000fe,
    0xdf000073000073]),
  (0x4, [0x100000101, 0x102000103, 0x104000105, 0x106000107, 0x108000109, 0x10a00010b, 0x10c00010d,
    0x10e00010f, 0x110000111, 0x112000113, 0x114000115, 0x116000117, 0x118000119, 0x11a00011b,
    0x11c00011d, 0x11e00011f, 0x120000121, 0x122000123, 0x124000125, 0x126000127, 0x128000129,
    0x12a00012b, 0x12c00012d, 0x12e00012f, 0x130000069000307, 0x132000133, 0x134000135,
    0x136000137, 0x13900013a, 0x13b00013c, 0x13d00013e, 0x13f000140]),
  (0x5, [0x141000142, 0x143000144, 0x145000146, 0x147000148, 0x1490002bc00006e, 0x14a00014b,
    0x14c00014d, 0x14e00014f, 0x150000151, 0x152000153, 0x154000155, 0x156000157, 0x158000159,
    0x15a00015b, 0x15c00015d, 0x15e00015f, 0x160000161, 0x162000163, 0x164000165, 0x166000167,
    0x168000169, 0x16a00016b, 0x16c00016d, 0x16e00016f, 0x170000171, 0x172000173, 0x174000175,
    0x176000177, 0x1780000ff, 0x17900017a, 0x17b00017c, 0x17d00017e, 0x17f000073]),
  (0x6, [0x181000253, 0x182000183, 0x184000185, 0x186000254, 0x187000188, 0x189000256, 0x18a000257,
    0x18b00018c, 0x18e0001dd, 0x18f000259, 0x19000025b, 0x191000192, 0x193000260, 0x194000263,
    0x196000269, 0x197000268, 0x198000199, 0x19c00026f, 0x19d000272, 0x19f000275, 0x1a00001a1,
    0x1a20001a3, 0x1a40001a5, 0x1a6000280, 0x1a70001a8, 0x1a9000283, 0x1ac0001ad, 0x1ae000288,
    0x1af0001b0, 0x1b100028a, 0x1b200028b, 0x1b30001b4, 0x1b50001b6, 0x1b7000292, 0x1b80001b9,
    0x1bc0001bd]),
  (0x7, [0x1c40001c6, 0x1c50001c6, 0x1c70001c9, 0x1c80001c9, 0x1ca0001cc, 0x1cb0001cc, 0x1cd0001ce,
    0x1cf0001d0, 0x1d10001d2, 0x1d30001d4, 0x1d50001d6, 0x1d70001d8, 0x1d90001da, 0x1db0001dc,
    0x1de0001df, 0x1e00001e1, 0x1e20001e3, 0x1e40001e5, 0x1e60001e7, 0x1e80001e9, 0x1ea0001eb,
    0x1ec0001ed, 0x1ee0001ef, 0x1f000006a00030c, 0x1f10001f3, 0x1f20001f3, 0x1f40001f5,
    0x1f6000195, 0x1f70001bf, 0x1f80001f9, 0x1fa0001fb, 0x1fc0001fd, 0x1fe0001ff]),
  (0x8, [0x200000201, 0x202000203, 0x204000205, 0x206000207, 0x208000209, 0x20a00020b, 0x20c00020d,
    0x20e00020f, 0x210000211, 0x212000213, 0x214000215, 0x216000217, 0x218000219, 0x21a00021b,
    0x21c00021d, 0x21e00021f, 0x22000019e, 0x222000223, 0x224000225, 0x226000227, 0x228000229,
    0x22a00022b, 0x22c00022d, 0x22e00022f, 0x230000231, 0x232000233, 0x23a002c65, 0x23b00023c,
    0x23d00019a, 0x23e002c66]),
  (0x9, [0x241000242, 0x243000180, 0x244000289, 0x24500028c, 0x246000247, 0x248000249, 0x24a00024b,
    0x24c00024d, 0x24e00024f]),
  (0xd, [0x3450003b9, 0x370000371, 0x372000373, 0x376000377, 0x37f0003f3]),
  (0xe, [0x3860003ac, 0x3880003ad, 0x3890003ae, 0x38a0003af, 0x38c0003cc, 0x38e0003cd, 0x38f0003ce,
    0x3900003b9000308000301, 0x3910003b1, 0x3920003b2, 0x3930003b3, 0x3940003b4, 0x3950003b5,
    0x3960003b6, 0x3970003b7, 0x3980003b8, 0x3990003b9, 0x39a0003ba, 0x39b0003bb, 0x39c0003bc,
    0x39d0003bd, 0x39e0003be, 0x39f0003bf, 0x3a00003c0, 0x3a10003c1, 0x3a30003c3, 0x3a40003c4,
    0x3a50003c5, 0x3a60003c6, 0x3a70003c7, 0x3a80003c8, 0x3a90003c9, 0x3aa0003ca, 0x3ab0003cb,
    0x3b00003c5000308000301]),
  (0xf, [0x3c20003c3, 0x3cf0003d7, 0x3d00003b2, 0x3d10003b8, 0x3d50003c6, 0x3d60003c0, 0x3d80003d9,
    0x3da0003db, 0x3dc0003dd, 0x3de0003df, 0x3e00003e1, 0x3e20003e3, 0x3e40003e5, 0x3e60003e7,
    0x3e80003e9, 0x3ea0003eb, 0x3ec0003ed, 0x3ee0003ef, 0x3f00003ba, 0x3f10003c1, 0x3f40003b8,
    0x3f50003b5, 0x3f70003f8, 0x3f90003f2, 0x3fa0003fb, 0x3fd00037b, 0x3fe00037c, 0x3ff00037d]),
  (0x10, [0x400000450, 0x401000451, 0x402000452, 0x403000453, 0x404000454, 0x405000455,
    0x406000456, 0x407000457, 0x408000458, 0x409000459, 0x40a00045a, 0x40b00045b, 0x40c00045c,
    0x40d00045d, 0x40e00045e, 0x40f00045f, 0x410000430, 0x411000431, 0x412000432, 0x413000433,
    0x414000434, 0x415000435, 0x416000436, 0x417000437, 0x418000438, 0x419000439, 0x41a00043a,
    0x41b00043b, 0x41c00043c, 0x41d00043d, 0x41e00043e, 0x41f00043f, 0x420000440, 0x421000441,
    0x422000442, 0x423000443, 0x424000444, 0x425000445, 0x426000446, 0x427000447, 0x428000448,
    0x429000449, 0x42a00044a, 0x42b00044b, 0x42c00044c, 0x42d00044d, 0x42e00044e, 0x42f00044f]),
  (0x11, [0x460000461, 0x462000463, 0x464000465, 0x466000467, 0x468000469, 0x46a00046b,
    0x46c00046d, 0x46e00046f, 0x470000471, 0x472000473, 0x474000475, 0x476000477, 0x478000479,
    0x47a00047b, 0x47c00047d, 0x47e00047f]),
  (0x12, [0x480000481, 0x48a00048b, 0x48c00048d, 0x48e00048f, 0x490000491, 0x492000493,
    0x494000495, 0x496000497, 0x498000499, 0x49a00049b, 0x49c00049d, 0x49e00049f, 0x4a00004a1,
    0x4a20004a3, 0x4a40004a5, 0x4a60004a7, 0x4a80004a9, 0x4aa0004ab, 0x4ac0004ad, 0x4ae0004af,
    0x4b00004b1, 0x4b20004b3, 0x4b40004b5, 0x4b60004b7, 0x4b80004b9, 0x4ba0004bb, 0x4bc0004bd,
    0x4be0004bf]),
  (0x13, [0x4c00004cf, 0x4c10004c2, 0x4c30004c4, 0x4c50004c6, 0x4c70004c8, 0x4c90004ca,
    0x4cb0004cc, 0x4cd0004ce, 0x4d00004d1, 0x4d20004d3, 0x4d40004d5, 0x4d60004d7, 0x4d80004d9,
    0x4da0004db, 0x4dc0004dd, 0x4de0004df, 0x4e00004e1, 0x4e20004e3, 0x4e40004e5, 0x4e60004e7,
    0x4e80004e9, 0x4ea0004eb, 0x4ec0004ed, 0x4ee0004ef, 0x4f00004f1, 0x4f20004f3, 0x4f40004f5,
    0x4f60004f7, 0x4f80004f9, 0x4fa0004fb, 0x4fc0004fd, 0x4fe0004ff]),
  (0x14, [0x500000501, 0x502000503, 0x504000505, 0x506000507, 0x508000509, 0x50a00050b,
    0x50c00050d, 0x50e00050f, 0x510000511, 0x512000513, 0x514000515, 0x516000517, 0x518000519,
    0x51a00051b, 0x51c00051d, 0x51e00051f, 0x520000521, 0x522000523, 0x524000525, 0x526000527,
    0x528000529, 0x52a00052b, 0x52c00052d, 0x52e00052f, 0x531000561, 0x532000562, 0x533000563,
    0x534000564, 0x535000565, 0x536000566, 0x537000567, 0x538000568, 0x539000569, 0x53a00056a,
    0x53b00056b, 0x53c00056c, 0x53d00056d, 0x53e00056e, 0x53f00056f]),
  (0x15, [0x540000570, 0x541000571, 0x542000572, 0x543000573, 0x544000574, 0x545000575,
    0x546000576, 0x547000577, 0x548000578, 0x549000579, 0x54a00057a, 0x54b00057b, 0x54c00057c,
    0x54d00057d, 0x54e00057e, 0x54f00057f, 0x550000580, 0x551000581, 0x552000582, 0x553000583,
    0x554000584, 0x555000585, 0x556000586]),
  (0x16, [0x587000565000582]),
  (0x42, [0x10a0002d00, 0x10a1002d01, 0x10a2002d02, 0x10a3002d03, 0x10a4002d04, 0x10a5002d05,
    0x10a6002d06, 0x10a7002d07, 0x10a8002d08, 0x10a9002d09, 0x10aa002d0a, 0x10ab002d0b,
    0x10ac002d0c, 0x10ad002d0d, 0x10ae002d0e, 0x10af002d0f, 0x10b0002d10, 0x10b1002d11,
    0x10b2002d12, 0x10b3002d13, 0x10b4002d14, 0x10b5002d15, 0x10b6002d16, 0x10b7002d17,
    0x10b8002d18, 0x10b9002d19, 0x10ba002d1a, 0x10bb002d1b, 0x10bc002d1c, 0x10bd002d1d,
    0x10be002d1e, 0x10bf002d1f]),
  (0x43, [0x10c0002d20, 0x10c1002d21, 0x10c2002d22, 0x10c3002d23, 0x10c4002d24, 0x10c5002d25,
    0x10c7002d27, 0x10cd002d2d]),
  (0x4f, [0x13f80013f0, 0x13f90013f1, 0x13fa0013f2, 0x13fb0013f3, 0x13fc0013f4, 0x13fd0013f5]),
  (0x72, [0x1c80000432, 0x1c81000434, 0x1c8200043e, 0x1c83000441, 0x1c84000442, 0x1c85000442,
    0x1c8600044a, 0x1c87000463, 0x1c8800a64b, 0x1c900010d0, 0x1c910010d1, 0x1c920010d2,
    0x1c930010d3, 0x1c940010d4, 0x1c950010d5, 0x1c960010d6, 0x1c970010d7, 0x1c980010d8,
    0x1c990010d9, 0x1c9a0010da, 0x1c9b0010db, 0x1c9c0010dc, 0x1c9d0010dd, 0x1c9e0010de,
    0x1c9f0010df, 0x1ca00010e0, 0x1ca10010e1, 0x1ca20010e2, 0x1ca30010e3, 0x1ca40010e4,
    0x1ca50010e5, 0x1ca60010e6, 0x1ca70010e7, 0x1ca80010e8, 0x1ca90010e9, 0x1caa0010ea,
    0x1cab0010eb, 0x1cac0010ec, 0x1cad0010ed, 0x1cae0010ee, 0x1caf0010ef, 0x1cb00010f0,
    0x1cb10010f1, 0x1cb20010f2, 0x1cb30010f3, 0x1cb40010f4, 0x1cb50010f5, 0x1cb60010f6,
    0x1cb70010f7, 0x1cb80010f8, 0x1cb90010f9, 0x1cba0010fa, 0x1cbd0010fd, 0x1cbe0010fe,
    0x1cbf0010ff]),
  (0x78, [0x1e00001e01, 0x1e02001e03, 0x1e04001e05, 0x1e06001e07, 0x1e08001e09, 0x1e0a001e0b,
    0x1e0c001e0d, 0x1e0e001e0f, 0x1e10001e11, 0x1e12001e13, 0x1e14001e15, 0x1e16001e17,
    0x1e18001e19, 0x1e1a001e1b, 0x1e1c001e1d, 0x1e1e001e1f, 0x1e20001e21, 0x1e22001e23,
    0x1e24001e25, 0x1e26001e27, 0x1e28001e29, 0x1e2a001e2b, 0x1e2c001e2d, 0x1e2e001e2f,
    0x1e30001e31, 0x1e32001e33, 0x1e34001e35, 0x1e36001e37, 0x1e38001e39, 0x1e3a001e3b,
    0x1e3c001e3d, 0x1e3e001e3f])]

def rows1E40 : Table := [
  (0x79, [0x1e40001e41, 0x1e42001e43, 0x1e44001e45, 0x1e46001e47, 0x1e48001e49, 0x1e4a001e4b,
    0x1e4c001e4d, 0x1e4e001e4f, 0x1e50001e51, 0x1e52001e53, 0x1e54001e55, 0x1e56001e57,
    0x1e58001e59, 0x1e5a001e5b, 0x1e5c001e5d, 0x1e5e001e5f, 0x1e60001e61, 0x1e62001e63,
    0x1e64001e65, 0x1e66001e67, 0x1e68001e69, 0x1e6a001e6b, 0x1e6c001e6d, 0x1e6e001e6f,
    0x1e70001e71, 0x1e72001e73, 0x1e74001e75, 0x1e76001e77, 0x1e78001e79, 0x1e7a001e7b,
    0x1e7c001e7d, 0x1e7e001e7f]),
  (0x7a, [0x1e80001e81, 0x1e82001e83, 0x1e84001e85, 0x1e86001e87, 0x1e88001e89, 0x1e8a001e8b,
    0x1e8c001e8d, 0x1e8e001e8f, 0x1e90001e91, 0x1e92001e93, 0x1e94001e95, 0x1e96000068000331,
    0x1e97000074000308, 0x1e9800007700030a, 0x1e9900007900030a, 0x1e9a0000610002be, 0x1e9b001e61,
    0x1e9e000073000073, 0x1ea0001ea1, 0x1ea2001ea3, 0x1ea4001ea5, 0x1ea6001ea7, 0x1ea8001ea9,
    0x1eaa001eab, 0x1eac001ead, 0x1eae001eaf, 0x1eb0001eb1, 0x1eb2001eb3, 0x1eb4001eb5,
    0x1eb6001eb7, 0x1eb8001eb9, 0x1eba001ebb, 0x1ebc001ebd, 0x1ebe001ebf]),
  (0x7b, [0x1ec0001ec1, 0x1ec2001ec3, 0x1ec4001ec5, 0x1ec6001ec7, 0x1ec8001ec9, 0x1eca001ecb,
    0x1ecc001ecd, 0x1ece001ecf, 0x1ed0001ed1, 0x1ed2001ed3, 0x1ed4001ed5, 0x1ed6001ed7,
    0x1ed8001ed9, 0x1eda001edb, 0x1edc001edd, 0x1ede001edf, 0x1ee0001ee1, 0x1ee2001ee3,
    0x1ee4001ee5, 0x1ee6001ee7, 0x1ee8001ee9, 0x1eea001eeb, 0x1eec001eed, 0x1eee001eef,
    0x1ef0001ef1, 0x1ef2001ef3, 0x1ef4001ef5, 0x1ef6001ef7, 0x1ef8001ef9, 0x1efa001efb,
    0x1efc001efd, 0x1efe001eff]),
  (0x7c, [0x1f08001f00, 0x1f09001f01, 0x1f0a001f02, 0x1f0b001f03, 0x1f0c001f04, 0x1f0d001f05,
    0x1f0e001f06, 0x1f0f001f07, 0x1f18001f10, 0x1f19001f11, 0x1f1a001f12, 0x1f1b001f13,
    0x1f1c001f14, 0x1f1d001f15, 0x1f28001f20, 0x1f29001f21, 0x1f2a001f22, 0x1f2b001f23,
    0x1f2c001f24, 0x1f2d001f25, 0x1f2e001f26, 0x1f2f001f27, 0x1f38001f30, 0x1f39001f31,
    0x1f3a001f32, 0x1f3b001f33, 0x1f3c001f34, 0x1f3d001f35, 0x1f3e001f36, 0x1f3f001f37]),
  (0x7d, [0x1f48001f40, 0x1f49001f41, 0x1f4a001f42, 0x1f4b001f43, 0x1f4c001f44, 0x1f4d001f45,
    0x1f500003c5000313, 0x1f520003c5000313000300, 0x1f540003c5000313000301,
    0x1f560003c5000313000342, 0x1f59001f51, 0x1f5b001f53, 0x1f5d001f55, 0x1f5f001f57, 0x1f68001f60,
    0x1f69001f61, 0x1f6a001f62, 0x1f6b001f63, 0x1f6c001f64, 0x1f6d001f65, 0x1f6e001f66,
    0x1f6f001f67]),
  (0x7e, [0x1f80001f000003b9, 0x1f81001f010003b9, 0x1f82001f020003b9, 0x1f83001f030003b9,
    0x1f84001f040003b9, 0x1f85001f050003b9, 0x1f86001f060003b9, 0x1f87001f070003b9,
    0x1f88001f000003b9, 0x1f89001f010003b9, 0x1f8a001f020003b9, 0x1f8b001f030003b9,
    0x1f8c001f040003b9, 0x1f8d001f050003b9, 0x1f8e001f060003b9, 0x1f8f001f070003b9,
    0x1f90001f200003b9, 0x1f91001f210003b9, 0x1f92001f220003b9, 0x1f93001f230003b9,
    0x1f94001f240003b9, 0x1f95001f250003b9, 0x1f96001f260003b9, 0x1f97001f270003b9,
    0x1f98001f200003b9, 0x1f99001f210003b9, 0x1f9a001f220003b9, 0x1f9b001f230003b9,
    0x1f9c001f240003b9, 0x1f9d001f250003b9, 0x1f9e001f260003b9, 0x1f9f001f270003b9,
    0x1fa0001f600003b9, 0x1fa1001f610003b9, 0x1fa2001f620003b9, 0x1fa3001f630003b9,
    0x1fa4001f640003b9, 0x1fa5001f650003b9, 0x1fa6001f660003b9, 0x1fa7001f670003b9,
    0x1fa8001f600003b9, 0x1fa9001f610003b9, 0x1faa001f620003b9, 0x1fab001f630003b9,
    0x1fac001f640003b9, 0x1fad001f650003b9, 0x1fae001f660003b9, 0x1faf001f670003b9,
    0x1fb2001f700003b9, 0x1fb30003b10003b9, 0x1fb40003ac0003b9, 0x1fb60003b1000342,
    0x1fb70003b10003420003b9, 0x1fb8001fb0, 0x1fb9001fb1, 0x1fba001f70, 0x1fbb001f71,
    0x1fbc0003b10003b9, 0x1fbe0003b9]),
  (0x7f, [0x1fc2001f740003b9, 0x1fc30003b70003b9, 0x1fc40003ae0003b9, 0x1fc60003b7000342,
    0x1fc70003b70003420003b9, 0x1fc8001f72, 0x1fc9001f73, 0x1fca001f74, 0x1fcb001f75,
    0x1fcc0003b70003b9, 0x1fd20003b9000308000300, 0x1fd30003b9000308000301, 0x1fd60003b9000342,
    0x1fd70003b9000308000342, 0x1fd8001fd0, 0x1fd9001fd1, 0x1fda001f76, 0x1fdb001f77,
    0x1fe20003c5000308000300, 0x1fe30003c5000308000301, 0x1fe40003c1000313, 0x1fe60003c5000342,
    0x1fe70003c5000308000342, 0x1fe8001fe0, 0x1fe9001fe1, 0x1fea001f7a, 0x1feb001f7b, 0x1fec001fe5,
    0x1ff2001f7c0003b9, 0x1ff30003c90003b9, 0x1ff40003ce0003b9, 0x1ff60003c9000342,
    0x1ff70003c90003420003b9, 0x1ff8001f78, 0x1ff9001f79, 0x1ffa001f7c, 0x1ffb001f7d,
    0x1ffc0003c90003b9]),
  (0x84, [0x21260003c9, 0x212a00006b, 0x212b0000e5, 0x213200214e]),
  (0x85, [0x2160002170, 0x2161002171, 0x2162002172, 0x2163002173, 0x2164002174, 0x2165002175,
    0x2166002176, 0x2167002177, 0x2168002178, 0x2169002179, 0x216a00217a, 0x216b00217b,
    0x216c00217c, 0x216d00217d, 0x216e00217e, 0x216f00217f]),
  (0x86, [0x2183002184]),
  (0x92, [0x24b60024d0, 0x24b70024d1, 0x24b80024d2, 0x24b90024d3, 0x24ba0024d4, 0x24bb0024d5,
    0x24bc0024d6, 0x24bd0024d7, 0x24be0024d8, 0x24bf0024d9]),
  (0x93, [0x24c00024da, 0x24c10024db, 0x24c20024dc, 0x24c30024dd, 0x24c40024de, 0x24c50024df,
    0x24c60024e0, 0x24c70024e1, 0x24c80024e2, 0x24c90024e3, 0x24ca0024e4, 0x24cb0024e5,
    0x24cc0024e6, 0x24cd0024e7, 0x24ce0024e8, 0x24cf0024e9]),
  (0xb0, [0x2c00002c30, 0x2c01002c31, 0x2c02002c32, 0x2c03002c33, 0x2c04002c34, 0x2c05002c35,
    0x2c06002c36, 0x2c07002c37, 0x2c08002c38, 0x2c09002c39, 0x2c0a002c3a, 0x2c0b002c3b,
    0x2c0c002c3c, 0x2c0d002c3d, 0x2c0e002c3e, 0x2c0f002c3f, 0x2c10002c40, 0x2c11002c41,
    0x2c12002c42, 0x2c13002c43, 0x2c14002c44, 0x2c15002c45, 0x2c16002c46, 0x2c17002c47,
    0x2c18002c48, 0x2c19002c49, 0x2c1a002c4a, 0x2c1b002c4b, 0x2c1c002c4c, 0x2c1d002c4d,
    0x2c1e002c4e, 0x2c1f002c4f, 0x2c20002c50, 0x2c21002c51, 0x2c22002c52, 0x2c23002c53,
    0x2c24002c54, 0x2c25002c55, 0x2c26002c56, 0x2c27002c57, 0x2c28002c58, 0x2c29002c59,
    0x2c2a002c5a, 0x2c2b002c5b, 0x2c2c002c5c, 0x2c2d002c5d, 0x2c2e002c5e, 0x2c2f002c5f]),
  (0xb1, [0x2c60002c61, 0x2c6200026b, 0x2c63001d7d, 0x2c6400027d, 0x2c67002c68, 0x2c69002c6a,
    0x2c6b002c6c, 0x2c6d000251, 0x2c6e000271, 0x2c6f000250, 0x2c70000252, 0x2c72002c73,
    0x2c75002c76, 0x2c7e00023f, 0x2c7f000240]),
  (0xb2, [0x2c80002c81, 0x2c82002c83, 0x2c84002c85, 0x2c86002c87, 0x2c88002c89, 0x2c8a002c8b,
    0x2c8c002c8d, 0x2c8e002c8f, 0x2c90002c91, 0x2c92002c93, 0x2c94002c95, 0x2c96002c97,
    0x2c98002c99, 0x2c9a002c9b, 0x2c9c002c9d, 0x2c9e002c9f, 0x2ca0002ca1, 0x2ca2002ca3,
    0x2ca4002ca5, 0x2ca6002ca7, 0x2ca8002ca9, 0x2caa002cab, 0x2cac002cad, 0x2cae002caf,
    0x2cb0002cb1, 0x2cb2002cb3, 0x2cb4002cb5, 0x2cb6002cb7, 0x2cb8002cb9, 0x2cba002cbb,
    0x2cbc002cbd, 0x2cbe002cbf]),
  (0xb3, [0x2cc0002cc1, 0x2cc2002cc3, 0x2cc4002cc5, 0x2cc6002cc7, 0x2cc8002cc9, 0x2cca002ccb,
    0x2ccc002ccd, 0x2cce002ccf, 0x2cd0002cd1, 0x2cd2002cd3, 0x2cd4002cd5, 0x2cd6002cd7,
    0x2cd8002cd9, 0x2cda002cdb, 0x2cdc002cdd, 0x2cde002cdf, 0x2ce0002ce1, 0x2ce2002ce3,
    0x2ceb002cec, 0x2ced002cee, 0x2cf2002cf3]),
  (0x299, [0xa64000a641, 0xa64200a643, 0xa64400a645, 0xa64600a647, 0xa64800a649, 0xa64a00a64b,
    0xa64c00a64d, 0xa64e00a64f, 0xa65000a651, 0xa65200a653, 0xa65400a655, 0xa65600a657,
    0xa65800a659, 0xa65a00a65b, 0xa65c00a65d, 0xa65e00a65f, 0xa66000a661, 0xa66200a663,
    0xa66400a665, 0xa66600a667, 0xa66800a669, 0xa66a00a66b, 0xa66c00a66d]),
  (0x29a, [0xa68000a681, 0xa68200a683, 0xa68400a685, 0xa68600a687, 0xa68800a689, 0xa68a00a68b,
    0xa68c00a68d, 0xa68e00a68f, 0xa69000a691, 0xa69200a693, 0xa69400a695, 0xa69600a697,
    0xa69800a699, 0xa69a00a69b]),
  (0x29c, [0xa72200a723, 0xa72400a725, 0xa72600a727, 0xa72800a729, 0xa72a00a72b, 0xa72c00a72d,
    0xa72e00a72f, 0xa73200a733, 0xa73400a735, 0xa73600a737, 0xa73800a739, 0xa73a00a73b,
    0xa73c00a73d, 0xa73e00a73f]),
  (0x29d, [0xa74000a741, 0xa74200a743, 0xa74400a745, 0xa74600a747, 0xa74800a749, 0xa74a00a74b,
    0xa74c00a74d, 0xa74e00a74f, 0xa75000a751, 0xa75200a753, 0xa75400a755, 0xa75600a757,
    0xa75800a759, 0xa75a00a75b, 0xa75c00a75d, 0xa75e00a75f, 0xa76000a761, 0xa76200a763,
    0xa76400a765, 0xa76600a767, 0xa76800a769, 0xa76a00a76b, 0xa76c00a76d, 0xa76e00a76f,
    0xa77900a77a, 0xa77b00a77c, 0xa77d001d79, 0xa77e00a77f]),
  (0x29e, [0xa78000a781, 0xa78200a783, 0xa78400a785, 0xa78600a787, 0xa78b00a78c, 0xa78d000265,
    0xa79000a791, 0xa79200a793, 0xa79600a797, 0xa79800a799, 0xa79a00a79b, 0xa79c00a79d,
    0xa79e00a79f, 0xa7a000a7a1, 0xa7a200a7a3, 0xa7a400a7a5, 0xa7a600a7a7, 0xa7a800a7a9,
    0xa7aa000266, 0xa7ab00025c, 0xa7ac000261, 0xa7ad00026c, 0xa7ae00026a, 0xa7b000029e,
    0xa7b1000287, 0xa7b200029d, 0xa7b300ab53, 0xa7b400a7b5, 0xa7b600a7b7, 0xa7b800a7b9,
    0xa7ba00a7bb, 0xa7bc00a7bd, 0xa7be00a7bf]),
  (0x29f, [0xa7c000a7c1, 0xa7c200a7c3, 0xa7c400a794, 0xa7c5000282, 0xa7c6001d8e, 0xa7c700a7c8,
    0xa7c900a7ca, 0xa7d000a7d1, 0xa7d600a7d7, 0xa7d800a7d9, 0xa7f500a7f6]),
  (0x2ad, [0xab700013a0, 0xab710013a1, 0xab720013a2, 0xab730013a3, 0xab740013a4, 0xab750013a5,
    0xab760013a6, 0xab770013a7, 0xab780013a8, 0xab790013a9, 0xab7a0013aa, 0xab7b0013ab,
    0xab7c0013ac, 0xab7d0013ad, 0xab7e0013ae, 0xab7f0013af])]

def rowsAB80 : Table := [
  (0x2ae, [0xab800013b0, 0xab810013b1, 0xab820013b2, 0xab830013b3, 0xab840013b4, 0xab850013b5,
    0xab860013b6, 0xab870013b7, 0xab880013b8, 0xab890013b9, 0xab8a0013ba, 0xab8b0013bb,
    0xab8c0013bc, 0xab8d0013bd, 0xab8e0013be, 0xab8f0013bf, 0xab900013c0, 0xab910013c1,
    0xab920013c2, 0xab930013c3, 0xab940013c4, 0xab950013c5, 0xab960013c6, 0xab970013c7,
    0xab980013c8, 0xab990013c9, 0xab9a0013ca, 0xab9b0013cb, 0xab9c0013cc, 0xab9d0013cd,
    0xab9e0013ce, 0xab9f0013cf, 0xaba00013d0, 0xaba10013d1, 0xaba20013d2, 0xaba30013d3,
    0xaba40013d4, 0xaba50013d5, 0xaba60013d6, 0xaba70013d7, 0xaba80013d8, 0xaba90013d9,
    0xabaa0013da, 0xabab0013db, 0xabac0013dc, 0xabad0013dd, 0xabae0013de, 0xabaf0013df,
    0xabb00013e0, 0xabb10013e1, 0xabb20013e2, 0xabb30013e3, 0xabb40013e4, 0xabb50013e5,
    0xabb60013e6, 0xabb70013e7, 0xabb80013e8, 0xabb90013e9, 0xabba0013ea, 0xabbb0013eb,
    0xabbc0013ec, 0xabbd0013ed, 0xabbe0013ee, 0xabbf0013ef]),
  (0x3ec, [0xfb00000066000066, 0xfb01000066000069, 0xfb0200006600006c, 0xfb03000066000066000069,
    0xfb0400006600006600006c, 0xfb05000073000074, 0xfb06000073000074, 0xfb13000574000576,
    0xfb14000574000565, 0xfb1500057400056b, 0xfb1600057e000576, 0xfb1700057400056d]),
  (0x3fc, [0xff2100ff41, 0xff2200ff42, 0xff2300ff43, 0xff2400ff44, 0xff2500ff45, 0xff2600ff46,
    0xff2700ff47, 0xff2800ff48, 0xff2900ff49, 0xff2a00ff4a, 0xff2b00ff4b, 0xff2c00ff4c,
    0xff2d00ff4d, 0xff2e00ff4e, 0xff2f00ff4f, 0xff3000ff50, 0xff3100ff51, 0xff3200ff52,
    0xff3300ff53, 0xff3400ff54, 0xff3500ff55, 0xff3600ff56, 0xff3700ff57, 0xff3800ff58,
    0xff3900ff59, 0xff3a00ff5a]),
  (0x410, [0x10400010428, 0x10401010429, 0x1040201042a, 0x1040301042b, 0x1040401042c,
    0x1040501042d, 0x1040601042e, 0x1040701042f, 0x10408010430, 0x10409010431, 0x1040a010432,
    0x1040b010433, 0x1040c010434, 0x1040d010435, 0x1040e010436, 0x1040f010437, 0x10410010438,
    0x10411010439, 0x1041201043a, 0x1041301043b, 0x1041401043c, 0x1041501043d, 0x1041601043e,
    0x1041701043f, 0x10418010440, 0x10419010441, 0x1041a010442, 0x1041b010443, 0x1041c010444,
    0x1041d010445, 0x1041e010446, 0x1041f010447, 0x10420010448, 0x10421010449, 0x1042201044a,
    0x1042301044b, 0x1042401044c, 0x1042501044d, 0x1042601044e, 0x1042701044f]),
  (0x412, [0x104b00104d8, 0x104b10104d9, 0x104b20104da, 0x104b30104db, 0x104b40104dc,
    0x104b50104dd, 0x104b60104de, 0x104b70104df, 0x104b80104e0, 0x104b90104e1, 0x104ba0104e2,
    0x104bb0104e3, 0x104bc0104e4, 0x104bd0104e5, 0x104be0104e6, 0x104bf0104e7]),
  (0x413, [0x104c00104e8, 0x104c10104e9, 0x104c20104ea, 0x104c30104eb, 0x104c40104ec,
    0x104c50104ed, 0x104c60104ee, 0x104c70104ef, 0x104c80104f0, 0x104c90104f1, 0x104ca0104f2,
    0x104cb0104f3, 0x104cc0104f4, 0x104cd0104f5, 0x104ce0104f6, 0x104cf0104f7, 0x104d00104f8,
    0x104d10104f9, 0x104d20104fa, 0x104d30104fb]),
  (0x415, [0x10570010597, 0x10571010598, 0x10572010599, 0x1057301059a, 0x1057401059b,
    0x1057501059c, 0x1057601059d, 0x1057701059e, 0x1057801059f, 0x105790105a0, 0x1057a0105a1,
    0x1057c0105a3, 0x1057d0105a4, 0x1057e0105a5, 0x1057f0105a6]),
  (0x416, [0x105800105a7, 0x105810105a8, 0x105820105a9, 0x105830105aa, 0x105840105ab,
    0x105850105ac, 0x105860105ad, 0x105870105ae, 0x105880105af, 0x105890105b0, 0x1058a0105b1,
    0x1058c0105b3, 0x1058d0105b4, 0x1058e0105b5, 0x1058f0105b6, 0x105900105b7, 0x105910105b8,
    0x105920105b9, 0x105940105bb, 0x105950105bc]),
  (0x432, [0x10c80010cc0, 0x10c81010cc1, 0x10c82010cc2, 0x10c83010cc3, 0x10c84010cc4,
    0x10c85010cc5, 0x10c86010cc6, 0x10c87010cc7, 0x10c88010cc8, 0x10c89010cc9, 0x10c8a010cca,
    0x10c8b010ccb, 0x10c8c010ccc, 0x10c8d010ccd, 0x10c8e010cce, 0x10c8f010ccf, 0x10c90010cd0,
    0x10c91010cd1, 0x10c92010cd2, 0x10c93010cd3, 0x10c94010cd4, 0x10c95010cd5, 0x10c96010cd6,
    0x10c97010cd7, 0x10c98010cd8, 0x10c99010cd9, 0x10c9a010cda, 0x10c9b010cdb, 0x10c9c010cdc,
    0x10c9d010cdd, 0x10c9e010cde, 0x10c9f010cdf, 0x10ca0010ce0, 0x10ca1010ce1, 0x10ca2010ce2,
    0x10ca3010ce3, 0x10ca4010ce4, 0x10ca5010ce5, 0x10ca6010ce6, 0x10ca7010ce7, 0x10ca8010ce8,
    0x10ca9010ce9, 0x10caa010cea, 0x10cab010ceb, 0x10cac010cec, 0x10cad010ced, 0x10cae010cee,
    0x10caf010cef, 0x10cb0010cf0, 0x10cb1010cf1, 0x10cb2010cf2]),
  (0x462, [0x118a00118c0, 0x118a10118c1, 0x118a20118c2, 0x118a30118c3, 0x118a40118c4,
    0x118a50118c5, 0x118a60118c6, 0x118a70118c7, 0x118a80118c8, 0x118a90118c9, 0x118aa0118ca,
    0x118ab0118cb, 0x118ac0118cc, 0x118ad0118cd, 0x118ae0118ce, 0x118af0118cf, 0x118b00118d0,
    0x118b10118d1, 0x118b20118d2, 0x118b30118d3, 0x118b40118d4, 0x118b50118d5, 0x118b60118d6,
    0x118b70118d7, 0x118b80118d8, 0x118b90118d9, 0x118ba0118da, 0x118bb0118db, 0x118bc0118dc,
    0x118bd0118dd, 0x118be0118de, 0x118bf0118df]),
  (0x5b9, [0x16e40016e60, 0x16e41016e61, 0x16e42016e62, 0x16e43016e63, 0x16e44016e64,
    0x16e45016e65, 0x16e46016e66, 0x16e47016e67, 0x16e48016e68, 0x16e49016e69, 0x16e4a016e6a,
    0x16e4b016e6b, 0x16e4c016e6c, 0x16e4d016e6d, 0x16e4e016e6e, 0x16e4f016e6f, 0x16e50016e70,
    0x16e51016e71, 0x16e52016e72, 0x16e53016e73, 0x16e54016e74, 0x16e55016e75, 0x16e56016e76,
    0x16e57016e77, 0x16e58016e78, 0x16e59016e79, 0x16e5a016e7a, 0x16e5b016e7b, 0x16e5c016e7c,
    0x16e5d016e7d, 0x16e5e016e7e, 0x16e5f016e7f]),
  (0x7a4, [0x1e90001e922, 0x1e90101e923, 0x1e90201e924, 0x1e90301e925, 0x1e90401e926,
    0x1e90501e927, 0x1e90601e928, 0x1e90701e929, 0x1e90801e92a, 0x1e90901e92b, 0x1e90a01e92c,
    0x1e90b01e92d, 0x1e90c01e92e, 0x1e90d01e92f, 0x1e90e01e930, 0x1e90f01e931, 0x1e91001e932,
    0x1e91101e933, 0x1e91201e934, 0x1e91301e935, 0x1e91401e936, 0x1e91501e937, 0x1e91601e938,
    0x1e91701e939, 0x1e91801e93a, 0x1e91901e93b, 0x1e91a01e93c, 0x1e91b01e93d, 0x1e91c01e93e,
    0x1e91d01e93f, 0x1e91e01e940, 0x1e91f01e941, 0x1e92001e942, 0x1e92101e943])]

def table : Table :=
  rows0080 ++ rows1E40 ++ rowsAB80

end CaseFolding

def foldChar (c : Char) : List Char :=
  if c.toNat < 0x80 then [c.toLower] else (CaseFolding.table.image? c).getD [c]

def fold (s : List Char) : List Char := s.flatMap foldChar

end SymbolIndex.Unicode
